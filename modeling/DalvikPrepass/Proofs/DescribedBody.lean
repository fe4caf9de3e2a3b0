import Mathlib
import DalvikPrepass.Description
import DalvikPrepass.Proofs.HandlerListAgreement
import DalvikPrepass.Proofs.SharedGroups

/-!
# Described method bodies

The body of a description is made by adding its try ranges one after the other,
each with the group of its handlers.  What has been added follows the
description at every step, so in the finished item each range leads to its own
handlers, and two ranges share a group just if they have the same handlers.
-/

namespace DalvikPrepass

namespace GroupReader

/-- The reader gives these handlers, one with each step, and then says that the
group has ended. -/
inductive Yields : GroupReader → List Handler → Prop
  | ended {reader after : GroupReader} (hnext : reader.next = (none, after)) : Yields reader []
  | handler {reader after : GroupReader} {handler : Handler} {handlers : List Handler}
      (hnext : reader.next = (some (.ok handler), after)) (hafter : Yields after handlers) :
      Yields reader (handler :: handlers)

theorem yields_of_drain {reader : GroupReader} {handlers : List Handler} {after : Cursor}
    (hdrain : reader.drain = (handlers, .ok after)) : reader.Yields handlers := by
  induction reader using drain.induct generalizing handlers with
  | case1 reader last hnext =>
      rw [drain_of_next_none hnext] at hdrain
      obtain rfl := congrArg Prod.fst hdrain
      exact .ended hnext
  | case2 reader error last hnext =>
      rw [drain_of_next_error hnext] at hdrain
      simp at hdrain
  | case3 reader handler last hnext _ _ _ _ ih =>
      rw [drain_of_next_ok hnext] at hdrain
      simp only [Prod.mk.injEq] at hdrain
      obtain ⟨rfl, hending⟩ := hdrain
      exact .handler hnext (ih (Prod.ext rfl hending))

/-- A reader yields one list of handlers only. -/
theorem Yields.unique {reader : GroupReader} {first second : List Handler}
    (hfirst : reader.Yields first) (hsecond : reader.Yields second) : first = second := by
  induction hfirst generalizing second with
  | ended hnext =>
      cases hsecond with
      | ended => rfl
      | handler hother => simp [hnext] at hother
  | handler hnext _ ih =>
      cases hsecond with
      | ended hother => simp [hnext] at hother
      | handler hother hafter =>
          simp only [hnext, Prod.mk.injEq, Option.some.injEq, Except.ok.injEq] at hother
          obtain ⟨rfl, rfl⟩ := hother
          rw [ih hafter]

end GroupReader

/-! ## Described try ranges -/

namespace TryDescription

/-- There is neither a typed handler nor a catch-all. -/
def IsUnhandled (description : TryDescription) : Prop :=
  description.typed = [] ∧ description.catchAll = none

/-- The group of the described handlers. -/
def group (description : TryDescription) : HandlerGroup :=
  ⟨description.typed.map fun handler => (handler.typeIndex, handler.address),
    description.catchAll⟩

theorem toHandlers_group (description : TryDescription) :
    description.group.toHandlers = description.handlers := by
  rw [group, HandlerGroup.toHandlers, handlers, List.map_map]
  rfl

/-- The handlers of a description are in normal form already. -/
theorem ofHandlers_handlers (description : TryDescription) :
    HandlerGroup.ofHandlers description.handlers = description.group := by
  rw [← toHandlers_group, HandlerGroup.ofHandlers_toHandlers]

/-- Described handlers are in their normal form. -/
theorem normalForm_handlers (description : TryDescription) :
    HandlerGroup.normalForm description.handlers = description.handlers := by
  rw [← HandlerGroup.toHandlers_ofHandlers, ofHandlers_handlers, toHandlers_group]

theorem length_filter_handlers (description : TryDescription) :
    (description.handlers.filter Handler.isTyped).length = description.typed.length := by
  rw [← HandlerGroup.length_typed_ofHandlers, ofHandlers_handlers, group, List.length_map]

theorem handlers_eq_nil_iff (description : TryDescription) :
    description.handlers = [] ↔ description.IsUnhandled := by
  rw [handlers, List.append_eq_nil_iff, List.map_eq_nil_iff, List.map_eq_nil_iff,
    Option.toList_eq_nil_iff, IsUnhandled]

theorem handlers_eq_iff {left right : TryDescription} :
    left.handlers = right.handlers ↔
      left.typed = right.typed ∧ left.catchAll = right.catchAll := by
  have hinjective : Function.Injective fun handler : TypedHandlerDescription =>
      (handler.typeIndex, handler.address) := by
    rintro ⟨typeIndex, address⟩ ⟨otherIndex, otherAddress⟩ hequal
    cases hequal
    rfl
  rw [← toHandlers_group, ← toHandlers_group, HandlerGroup.toHandlers_injective.eq_iff, group,
    group, HandlerGroup.mk.injEq, (List.map_injective_iff.mpr hinjective).eq_iff]

/-- The first of the try ranges that has no handler is the one at `index`. -/
structure FirstUnhandled (tries : List TryDescription) (index : Nat) : Prop where
  unhandled : ∃ description, tries[index]? = some description ∧ description.IsUnhandled
  before : ∀ earlier < index, ∀ description, tries[earlier]? = some description →
    ¬description.IsUnhandled

namespace FirstUnhandled

variable {description : TryDescription} {tries : List TryDescription} {index : Nat}

theorem head (hunhandled : description.IsUnhandled) :
    FirstUnhandled (description :: tries) 0 where
  unhandled := ⟨description, rfl, hunhandled⟩
  before _ hearlier := absurd hearlier (Nat.not_lt_zero _)

theorem tail (hhandled : ¬description.IsUnhandled) (hfirst : FirstUnhandled tries index) :
    FirstUnhandled (description :: tries) (index + 1) where
  unhandled := hfirst.unhandled
  before earlier hearlier other hother := by
    cases earlier with
    | zero =>
        obtain rfl : description = other := by simpa using hother
        exact hhandled
    | succ earlier => exact hfirst.before earlier (Nat.lt_of_succ_lt_succ hearlier) other hother

end FirstUnhandled

end TryDescription

namespace CodeItemBuilder

/-- Adding a group leaves everything else in the builder as it is. -/
theorem addGroup_eq (builder : CodeItemBuilder) (handlers : List Handler) :
    ∃ groups, (builder.addGroup handlers).2 = { builder with groups } := by
  rw [addGroup]
  split
  · exact ⟨builder.groups, rfl⟩
  · exact ⟨_, rfl⟩

end CodeItemBuilder

/-! ## Adding the try ranges -/

namespace MethodDescription

open TryDescription (FirstUnhandled)

variable {description : MethodDescription} {builder result : CodeItemBuilder}
  {given : List (List Handler × Nat)} {added : List TryDescription}

theorem addTries_of_unhandled {first : TryDescription} (hunhandled : first.IsUnhandled)
    (builder : CodeItemBuilder) (index : Nat) (tries : List TryDescription) :
    addTries builder index (first :: tries) = .error ⟨index⟩ := by
  rw [addTries, first.handlers_eq_nil_iff.mpr hunhandled]
  rfl

/-- The builder after one more described try range. -/
def addDescribed (builder : CodeItemBuilder) (first : TryDescription) : CodeItemBuilder :=
  (builder.addGroup first.handlers).2.addTry first.start first.count
    (builder.addGroup first.handlers).1

theorem addTries_of_handled {first : TryDescription} (hhandled : ¬first.IsUnhandled)
    (builder : CodeItemBuilder) (index : Nat) (tries : List TryDescription) :
    addTries builder index (first :: tries) =
      addTries (addDescribed builder first) (index + 1) tries := by
  rw [← first.handlers_eq_nil_iff, ← List.isEmpty_iff] at hhandled
  rw [addTries, if_neg hhandled]
  rfl

/-- An error names the first try range without handlers. -/
theorem firstUnhandled_of_addTries {tries : List TryDescription} {offset : Nat}
    {error : UnhandledTry} (hadd : addTries builder offset tries = .error error) :
    ∃ index, error = ⟨offset + index⟩ ∧ FirstUnhandled tries index := by
  induction tries generalizing builder offset with
  | nil => cases hadd
  | cons first tries ih =>
      by_cases hfirst : first.IsUnhandled
      · rw [addTries_of_unhandled hfirst] at hadd
        obtain rfl := Except.error.inj hadd
        exact ⟨0, rfl, .head hfirst⟩
      · rw [addTries_of_handled hfirst] at hadd
        obtain ⟨index, rfl, hindex⟩ := ih hadd
        refine ⟨index + 1, ?_, hindex.tail hfirst⟩
        rw [Nat.add_right_comm, Nat.add_assoc]

/-- A builder that has come to the description's code and registers and to the
try ranges `added`, each with a number that was given for its handlers. -/
structure Follows (description : MethodDescription) (builder : CodeItemBuilder)
    (given : List (List Handler × Nat)) (added : List TryDescription) : Prop where
  built : builder.Built given
  code : builder.code.toList = description.code
  registers : builder.registers = description.registers
  calls : ∀ call ∈ given, ∃ described ∈ added, call.1 = described.handlers
  ranges : List.Forall₂ (fun range described => range.start = described.start ∧
      range.count = described.count ∧ (described.handlers, range.group) ∈ given)
    builder.tries.toList added

namespace Follows

theorem addDescribed (hfollows : description.Follows builder given added)
    {first : TryDescription} (hhandled : ¬first.IsUnhandled) :
    description.Follows (addDescribed builder first)
      ((first.handlers, (builder.addGroup first.handlers).1) :: given) (added ++ [first]) := by
  have hmem : (first.handlers, (builder.addGroup first.handlers).1) ∈
      (first.handlers, (builder.addGroup first.handlers).1) :: given := List.mem_cons_self
  have hbuilt := hfollows.built.addGroup (first.handlers_eq_nil_iff.not.mpr hhandled)
  obtain ⟨groups, hgroups⟩ := builder.addGroup_eq first.handlers
  constructor
  · exact hbuilt.addTry hmem first.start first.count
  · rw [MethodDescription.addDescribed, hgroups]
    exact hfollows.code
  · rw [MethodDescription.addDescribed, hgroups]
    exact hfollows.registers
  · intro call hcall
    rcases List.mem_cons.mp hcall with rfl | hbefore
    · exact ⟨first, List.mem_append_right added List.mem_cons_self, rfl⟩
    · obtain ⟨other, hother, hequal⟩ := hfollows.calls call hbefore
      exact ⟨other, List.mem_append_left [first] hother, hequal⟩
  · -- The calls made before stay among the given ones.
    rw [MethodDescription.addDescribed, hgroups, CodeItemBuilder.addTry, Array.toList_push]
    apply List.rel_append
    · exact hfollows.ranges.imp fun range other hrange =>
        ⟨hrange.1, hrange.2.1, List.mem_cons_of_mem _ hrange.2.2⟩
    · exact .cons ⟨rfl, rfl, hmem⟩ .nil

/-- A run over try ranges adds all of them, and each of them has a handler. -/
theorem addTries {tries : List TryDescription} {index : Nat}
    (hfollows : description.Follows builder given added)
    (hadd : addTries builder index tries = .ok result) :
    (∀ described ∈ tries, ¬described.IsUnhandled) ∧
      ∃ after, description.Follows result after (added ++ tries) := by
  induction tries generalizing builder given added index with
  | nil =>
      obtain rfl := Except.ok.inj hadd
      rw [List.append_nil]
      exact ⟨List.forall_mem_nil _, given, hfollows⟩
  | cons first tries ih =>
      by_cases hfirst : first.IsUnhandled
      · rw [addTries_of_unhandled hfirst] at hadd
        cases hadd
      · rw [addTries_of_handled hfirst] at hadd
        obtain ⟨hhandled, after, hafter⟩ := ih (hfollows.addDescribed hfirst) hadd
        rw [List.append_assoc] at hafter
        exact ⟨List.forall_mem_cons.mpr ⟨hfirst, hhandled⟩, after, hafter⟩

end Follows

/-! ## The finished item -/

/-- At `index` the description has `described`, and the item has `range`. -/
def Places (description : MethodDescription) (item : CodeItem) (index : Nat)
    (described : TryDescription) (range : TryItem) : Prop :=
  description.tries[index]? = some described ∧ item.tries[index]? = some range

/-- The item holds what is described.  From the offset of a try range its own
handlers are read, the typed ones and then the catch-all, and no others. -/
structure WrittenAs (description : MethodDescription) (item : CodeItem) : Prop where
  code : item.code = description.code
  registers : item.registers = description.registers
  length_tries : item.tries.length = description.tries.length
  range : ∀ index described range, description.Places item index described range →
    range.start = described.start ∧ range.count = described.count
  handlers : ∀ index described range, description.Places item index described range →
    ∃ reader, HandlerList.groupAt item.handlers range.handlerOffset.toNat = .ok reader ∧
      reader.Yields (described.typed.map (fun entry => ⟨some entry.typeIndex, entry.address⟩) ++
        described.catchAll.toList.map fun address => ⟨none, address⟩)
  offset_eq_iff : ∀ index described range other otherDescribed otherRange,
    description.Places item index described range →
    description.Places item other otherDescribed otherRange →
    (range.handlerOffset = otherRange.handlerOffset ↔
      described.typed = otherDescribed.typed ∧ described.catchAll = otherDescribed.catchAll)
  readable : ∀ id annotations sink build record, Prepass.NotMalformed
    ((Prepass.markTries (.ofCodeItem item id) annotations sink).runIn build record).1

namespace Follows

variable {index other : Nat} {described otherDescribed : TryDescription}
  {range otherRange : TryItem}

theorem typed (hfollows : description.Follows builder given description.tries)
    (htyped : ∀ described ∈ description.tries, described.typed.length < 2 ^ 31) :
    ∀ call ∈ given, (call.1.filter Handler.isTyped).length < 2 ^ 31 := by
  intro call hcall
  obtain ⟨described, hmem, hequal⟩ := hfollows.calls call hcall
  rw [hequal, described.length_filter_handlers]
  exact htyped described hmem

/-- Each described range is kept with the handlers that are described. -/
theorem covers (hfollows : description.Follows builder given description.tries)
    (hplaces : description.Places builder.build index described range) :
    builder.Covers given index range described.handlers ∧
      range.start = described.start ∧ range.count = described.count := by
  obtain ⟨hdescribed, hitem⟩ := hplaces
  have hmap := hitem
  rw [CodeItemBuilder.build, List.getElem?_map] at hmap
  obtain ⟨added, hadded, rfl⟩ := Option.map_eq_some_iff.mp hmap
  have hzip : (added, described) ∈ builder.tries.toList.zip description.tries :=
    List.mem_of_getElem? (List.getElem?_zip_eq_some.mpr ⟨hadded, hdescribed⟩)
  obtain ⟨hstart, hcount, hgiven⟩ := List.forall₂_zip hfollows.ranges hzip
  exact ⟨⟨hitem, added, hadded, hgiven⟩, hstart, hcount⟩

theorem read (hfollows : description.Follows builder given description.tries)
    (htyped : ∀ described ∈ description.tries, described.typed.length < 2 ^ 31)
    (hlength : builder.build.handlers.length < 2 ^ 32)
    (hplaces : description.Places builder.build index described range) :
    ∃ reader, HandlerList.groupAt builder.build.handlers range.handlerOffset.toNat = .ok reader ∧
      reader.Yields described.handlers := by
  obtain ⟨reader, after, hstart, hdrain⟩ :=
    (hfollows.covers hplaces).1.read hfollows.built (hfollows.typed htyped) hlength
  rw [described.normalForm_handlers] at hdrain
  exact ⟨reader, hstart, GroupReader.yields_of_drain hdrain⟩

theorem offset_eq_iff (hfollows : description.Follows builder given description.tries)
    (htyped : ∀ described ∈ description.tries, described.typed.length < 2 ^ 31)
    (hlength : builder.build.handlers.length < 2 ^ 32)
    (hplaces : description.Places builder.build index described range)
    (hother : description.Places builder.build other otherDescribed otherRange) :
    range.handlerOffset = otherRange.handlerOffset ↔
      described.handlers = otherDescribed.handlers := by
  constructor
  · -- What one offset leads to gives one list of handlers only.
    intro hoffset
    obtain ⟨reader, hreader, hyields⟩ := hfollows.read htyped hlength hplaces
    obtain ⟨otherReader, hotherReader, hotherYields⟩ := hfollows.read htyped hlength hother
    rw [hoffset] at hreader
    obtain rfl := Except.ok.inj (hreader.symm.trans hotherReader)
    exact hyields.unique hotherYields
  · intro hequal
    have hkeeps := hfollows.built.keeps
    obtain ⟨number, hgiven, hstart, -⟩ :=
      (hfollows.covers hplaces).1.exists_offset hkeeps hlength
    obtain ⟨otherNumber, hotherGiven, hotherStart, -⟩ :=
      (hfollows.covers hother).1.exists_offset hkeeps hlength
    have hnumber : number = otherNumber :=
      (hkeeps.number_eq_iff hgiven hotherGiven).mpr (congrArg _ hequal)
    rw [hnumber, hotherStart] at hstart
    exact UInt32.toNat_inj.mp (Option.some.inj hstart).symm

theorem readable (hfollows : description.Follows builder given description.tries)
    (htyped : ∀ described ∈ description.tries, described.typed.length < 2 ^ 31)
    (hlength : builder.build.handlers.length < 2 ^ 32) (id : Option MethodId)
    (annotations : Annotations) (sink : Sink) (build : Build) (record : Record) :
    Prepass.NotMalformed
      ((Prepass.markTries (.ofCodeItem builder.build id) annotations sink).runIn build record).1 := by
  refine Prepass.notMalformed_markTries (fun htries => ?_) annotations sink build record
  have htries : builder.build.tries ≠ [] := htries
  rw [CodeItemBuilder.handlers_build htries] at hlength
  have hcountable := CodeItemBuilder.countable_of_typed hfollows.built.keeps
    (hfollows.typed htyped) hlength
  exact (CodeItemBuilder.wholeHandlers_build hfollows.built hcountable).encodes htries

theorem writtenAs_build (hfollows : description.Follows builder given description.tries)
    (htyped : ∀ described ∈ description.tries, described.typed.length < 2 ^ 31)
    (hlength : builder.build.handlers.length < 2 ^ 32) : description.WrittenAs builder.build where
  code := hfollows.code
  registers := hfollows.registers
  length_tries := by
    rw [CodeItemBuilder.length_tries_build, ← Array.length_toList]
    exact hfollows.ranges.length_eq
  range _ _ _ hplaces := (hfollows.covers hplaces).2
  handlers _ _ _ hplaces := hfollows.read htyped hlength hplaces
  offset_eq_iff _ _ _ _ _ _ hplaces hother := by
    rw [hfollows.offset_eq_iff htyped hlength hplaces hother, TryDescription.handlers_eq_iff]
  readable := hfollows.readable htyped hlength

end Follows

/-- The builder to which the try ranges are added. -/
def bodyBuilder (description : MethodDescription) : CodeItemBuilder :=
  (CodeItemBuilder.empty.setRegisters description.registers 0 0).appendCode description.code

theorem follows_bodyBuilder (description : MethodDescription) :
    description.Follows description.bodyBuilder [] [] where
  built := (CodeItemBuilder.Built.empty.setRegisters _ _ _).appendCode _
  code := by simp [bodyBuilder, CodeItemBuilder.appendCode, CodeItemBuilder.setRegisters,
    CodeItemBuilder.empty]
  registers := rfl
  calls _ hcall := absurd hcall List.not_mem_nil
  ranges := .nil

/-- Making a body is adding the try ranges to a builder that has the code. -/
theorem codeItem_eq (description : MethodDescription) :
    description.codeItem =
      (addTries description.bodyBuilder 0 description.tries).map CodeItemBuilder.build :=
  rfl

/-- Either a try range without handlers ends the run, or a builder comes to
follow the whole description. -/
theorem codeItem_cases (description : MethodDescription) :
    (∃ index, description.codeItem = .error ⟨index⟩ ∧ FirstUnhandled description.tries index) ∨
      ∃ builder given, description.codeItem = .ok builder.build ∧
        (∀ described ∈ description.tries, ¬described.IsUnhandled) ∧
        description.Follows builder given description.tries := by
  rw [codeItem_eq]
  cases hadd : addTries description.bodyBuilder 0 description.tries with
  | error error =>
      obtain ⟨index, rfl, hfirst⟩ := firstUnhandled_of_addTries hadd
      rw [Nat.zero_add]
      exact .inl ⟨index, rfl, hfirst⟩
  | ok result =>
      obtain ⟨hhandled, given, hfollows⟩ := description.follows_bodyBuilder.addTries hadd
      exact .inr ⟨result, given, rfl, hhandled, hfollows⟩

/-- A description has no body just if a try range has no handler, and the error
names the first of them.  Every other description is written as an item that
loses and mixes no handlers. -/
theorem codeItem_writtenAs {description : MethodDescription}
    (htyped : ∀ described ∈ description.tries, described.typed.length < 2 ^ 31)
    (hlength : ∀ item, description.codeItem = .ok item → item.handlers.length < 2 ^ 32) :
    ((∃ error, description.codeItem = .error error) ↔
        ∃ described ∈ description.tries, described.IsUnhandled) ∧
      (∀ error, description.codeItem = .error error →
        FirstUnhandled description.tries error.index) ∧
      ∀ item, description.codeItem = .ok item → description.WrittenAs item := by
  rcases description.codeItem_cases with
    ⟨index, herror, hindex⟩ | ⟨builder, given, hitem, hhandled, hfollows⟩
  · obtain ⟨described, hat, hunhandled⟩ := hindex.unhandled
    have hmem : described ∈ description.tries := List.mem_of_getElem? hat
    refine ⟨iff_of_true ⟨_, herror⟩ ⟨described, hmem, hunhandled⟩, ?_, ?_⟩
    · intro error hequal
      obtain rfl := Except.error.inj (herror.symm.trans hequal)
      exact hindex
    · intro item hitem
      cases herror.symm.trans hitem
  · refine ⟨iff_of_false ?_ ?_, ?_, ?_⟩
    · rintro ⟨error, herror⟩
      cases hitem.symm.trans herror
    · rintro ⟨described, hmem, hunhandled⟩
      exact hhandled described hmem hunhandled
    · intro error herror
      cases hitem.symm.trans herror
    · intro item hequal
      obtain rfl := Except.ok.inj (hitem.symm.trans hequal)
      exact hfollows.writtenAs_build htyped (hlength _ hitem)

/-- A range with a typed handler and a catch-all, one with the same catch-all
alone, and one that shares the group of the first. -/
def nestedReturn : MethodDescription where
  classDescriptor := "LFoo;"
  name := "bar"
  proto := "()V"
  registers := 2
  code := [0x0000, 0x000e]
  tries := [⟨0, 1, [⟨3, 1⟩], some 1⟩, ⟨0, 2, [], some 1⟩, ⟨1, 1, [⟨3, 1⟩], some 1⟩]

theorem codeItem_nestedReturn : nestedReturn.codeItem = .ok {
    registers := 2
    ins := 0
    outs := 0
    debugInfoOffset := 0
    code := [0x0000, 0x000e]
    tries := [⟨0, 1, 1⟩, ⟨0, 2, 5⟩, ⟨1, 1, 1⟩]
    handlers := [2, 0x7f, 3, 1, 1, 0, 1] } := by
  cbv

theorem codeItem_writtenAs_nestedReturn :
    (∀ described ∈ nestedReturn.tries, described.typed.length < 2 ^ 31) ∧
      (∀ item, nestedReturn.codeItem = .ok item → item.handlers.length < 2 ^ 32) ∧
      ∃ item, nestedReturn.codeItem = .ok item ∧ nestedReturn.WrittenAs item := by
  have htyped : ∀ described ∈ nestedReturn.tries, described.typed.length < 2 ^ 31 := by decide
  have hlength : ∀ item, nestedReturn.codeItem = .ok item → item.handlers.length < 2 ^ 32 := by
    intro item hitem
    obtain rfl := Except.ok.inj (codeItem_nestedReturn.symm.trans hitem)
    simp
  exact ⟨htyped, hlength, _, codeItem_nestedReturn,
    (codeItem_writtenAs htyped hlength).2.2 _ codeItem_nestedReturn⟩

end MethodDescription

end DalvikPrepass
