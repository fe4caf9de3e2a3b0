import Mathlib
import DalvikPrepass.CodeItem.Builder
import DalvikPrepass.Proofs.CodeItemGrammar

/-!
# What the encoders write

Groups, handler lists, try ranges and code items are written in the grammar
that the readers accept, as long as every number fits the bytes it is given.
-/

namespace DalvikPrepass

open Bytes

namespace HandlerGroup

/-- A group with at least one handler. -/
def IsProper (group : HandlerGroup) : Prop :=
  group.typed ≠ [] ∨ group.catchAll ≠ none

/-- A group that is made of handlers has one. -/
theorem isProper_ofHandlers {handlers : List Handler} (hhandlers : handlers ≠ []) :
    (ofHandlers handlers).IsProper := by
  obtain ⟨handler, handlers, rfl⟩ := List.exists_cons_of_ne_nil hhandlers
  obtain ⟨typeIndex, address⟩ := handler
  cases typeIndex with
  | none =>
      right
      simp [ofHandlers]
  | some typeIndex =>
      left
      simp [ofHandlers]

/-- The sign of a group's size says whether there is a catch-all. -/
theorem toInt_signedCount {group : HandlerGroup} (hlength : group.typed.length < 2 ^ 31) :
    group.signedCount.toInt =
      if group.catchAll.isSome then -(group.typed.length : Int) else group.typed.length := by
  rw [signedCount]
  split
  · rw [Int32.neg_ofNat, Int32.toInt_ofInt_of_le (by omega) (by omega)]
  · exact Int32.toInt_ofNat_of_lt hlength

theorem isTyped_toHandlers (group : HandlerGroup) :
    group.toHandlers.map Handler.isTyped =
      List.replicate group.typed.length true ++
        List.replicate group.catchAll.isSome.toNat false := by
  rw [toHandlers, List.map_append, List.map_map, List.map_map]
  congr 1
  · exact List.map_const'
  · cases group.catchAll <;> rfl

/-- The size that is written announces the handlers that follow it. -/
theorem groupShape_signedCount {group : HandlerGroup} (hproper : group.IsProper)
    (hlength : group.typed.length < 2 ^ 31) :
    HandlerList.groupShape group.signedCount = group.toHandlers.map Handler.isTyped := by
  rw [HandlerList.groupShape, toInt_signedCount hlength, isTyped_toHandlers]
  cases hcatchAll : group.catchAll with
  | none =>
      have htyped : group.typed ≠ [] := hproper.resolve_right (absurd hcatchAll)
      have hpositive := List.length_pos_iff.mpr htyped
      simp
      omega
  | some address => simp

theorem sequence_encode (group : HandlerGroup) :
    Sequence Handler.Encodes
      (group.typed.flatMap (fun (typeIndex, address) =>
          Leb128.encodeUnsigned typeIndex ++ Leb128.encodeUnsigned address) ++
        group.catchAll.toList.flatMap Leb128.encodeUnsigned)
      group.toHandlers := by
  apply Sequence.append
  · apply Sequence.flatMap
    intro handler _
    exact .typed (Leb128.encodesUnsigned_encodeUnsigned _) (Leb128.encodesUnsigned_encodeUnsigned _)
  · apply Sequence.flatMap
    intro address _
    exact .catchAll (Leb128.encodesUnsigned_encodeUnsigned address)

/-- The sign of the count says whether there is a catch-all, which it cannot in
front of a group without handlers. -/
theorem encodesGroup_encode {group : HandlerGroup} (hproper : group.IsProper)
    (hlength : group.typed.length < 2 ^ 31) :
    HandlerList.EncodesGroup group.encode group.toHandlers := by
  rw [encode, List.append_assoc]
  apply HandlerList.EncodesGroup.intro
  · exact Leb128.encodesSigned_encodeSigned group.signedCount
  · exact group.sequence_encode
  · exact (groupShape_signedCount hproper hlength).symm

end HandlerGroup

/-- The list that is written is one of the grammar. -/
theorem HandlerList.encodes_encode {groups : List HandlerGroup} (hcount : groups.length < 2 ^ 32)
    (hproper : ∀ group ∈ groups, group.IsProper)
    (htyped : ∀ group ∈ groups, group.typed.length < 2 ^ 31) :
    HandlerList.Encodes (encode groups) (groups.map HandlerGroup.toHandlers) := by
  apply HandlerList.Encodes.intro
  · exact Leb128.encodesUnsigned_encodeUnsigned (UInt32.ofNat groups.length)
  · apply Sequence.flatMap
    intro group hgroup
    exact HandlerGroup.encodesGroup_encode (hproper group hgroup) (htyped group hgroup)
  · rw [List.length_map, UInt32.toNat_ofNat_of_lt' hcount]

/-- The two numbers that are written in two bytes fit there. -/
def TryItem.IsShort (item : TryItem) : Prop :=
  item.count.toNat ≤ 0xffff ∧ item.handlerOffset.toNat ≤ 0xffff

/-- A range whose count fits into two bytes is written as the grammar says. -/
theorem TryItem.encodes_encode {item : TryItem} (hshort : item.IsShort) :
    TryItem.Encodes item.encode item := by
  have hcount : item.count.toUInt16.toNat = item.count.toNat := by
    rw [UInt32.toNat_toUInt16]
    exact Nat.mod_eq_of_lt (Nat.lt_succ_of_le hshort.1)
  have hoffset : item.handlerOffset.toUInt16.toNat = item.handlerOffset.toNat := by
    rw [UInt32.toNat_toUInt16]
    exact Nat.mod_eq_of_lt (Nat.lt_succ_of_le hshort.2)
  refine ⟨_, _, _, rfl, isWord_ofWord32 item.start, ?_, ?_⟩
  · rw [← hcount]
    exact isWord_ofWord16 item.count.toUInt16
  · rw [← hoffset]
    exact isWord_ofWord16 item.handlerOffset.toUInt16

namespace CodeItem

theorem encodesHeader_encodeHeader {item : CodeItem} (hcode : item.code.length < 2 ^ 32)
    (htries : item.tries.length < 2 ^ 16) : EncodesHeader item.encodeHeader item := by
  have htryCount : (UInt16.ofNat item.tries.length).toNat = item.tries.length :=
    UInt16.toNat_ofNat_of_lt' htries
  have hunitCount : (UInt32.ofNat item.code.length).toNat = item.code.length :=
    UInt32.toNat_ofNat_of_lt' hcode
  refine ⟨_, _, _, _, _, _, rfl, isWord_ofWord16 item.registers, isWord_ofWord16 item.ins,
    isWord_ofWord16 item.outs, ?_, isWord_ofWord32 item.debugInfoOffset, ?_⟩
  · have hword := isWord_ofWord16 (UInt16.ofNat item.tries.length)
    rwa [htryCount] at hword
  · have hword := isWord_ofWord32 (UInt32.ofNat item.code.length)
    rwa [hunitCount] at hword

theorem sequence_code (item : CodeItem) :
    Sequence (fun bytes (unit : CodeUnit) => IsWord 2 bytes unit.toNat)
      (item.code.flatMap ofWord16) item.code := by
  apply Sequence.flatMap_self
  intro unit _
  exact isWord_ofWord16 unit

/-- Every item that fits is written as the grammar says. -/
theorem encodes_encode {item : CodeItem} (hcode : item.code.length < 2 ^ 32)
    (htries : item.tries.length < 2 ^ 16) (hshort : ∀ range ∈ item.tries, range.IsShort)
    (hwhole : item.WholeHandlers) : Encodes item.encode item := by
  rw [encode]
  apply Encodes.intro
  · exact encodesHeader_encodeHeader hcode htries
  · exact item.sequence_code
  · rw [WholeHandlers] at hwhole
    by_cases hnone : item.tries = []
    · rw [if_pos hnone] at hwhole
      rw [hnone, hwhole]
      exact .absent
    · rw [if_neg hnone] at hwhole
      obtain ⟨groups, hgroups⟩ := hwhole
      rw [if_neg (by simpa using hnone)]
      refine .present hnone ?_ ?_ hgroups
      · rw [padding]
        split <;> rfl
      · apply Sequence.flatMap_self
        intro range hrange
        exact TryItem.encodes_encode (hshort range hrange)

end CodeItem

end DalvikPrepass
