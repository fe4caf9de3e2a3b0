import Mathlib
import DalvikPrepass.Proofs.InstructionChain
import DalvikPrepass.Proofs.PassOutcome
import DalvikPrepass.Proofs.TryMarks

/-!
# Prepared methods

A method that passes has one chain of instructions, and its annotations say
exactly what the chain, the try ranges and the handler list say: where the
instructions start and how wide they are, which of them a try range covers, and
which are the targets of handlers.
-/

namespace DalvikPrepass.Prepass

/-- Some handler of the method's handler list starts at the address.  Without a
try range the list does not count. -/
def Targeted (method : MethodCode) (address : Nat) : Prop :=
  method.tries ≠ [] ∧ ∃ groups, HandlerList.Holds method.handlers groups ∧
    ∃ group ∈ groups, ∃ handler ∈ group, handler.address.toNat = address

/-- The annotations and the count are those of a method with these
instructions. -/
structure Describes (method : MethodCode) (extents : List (Nat × Nat)) (prepared : Prepared) :
    Prop where
  size : prepared.annotations.size = method.code.length
  starts : prepared.annotations.starts = extents
  widths : (extents.map Prod.snd).sum = method.code.length
  inTry : ∀ address, prepared.annotations.has .inTry address = true ↔
    (∃ width, (address, width) ∈ extents) ∧ Covered method.tries address
  branchTarget : ∀ address, prepared.annotations.has .branchTarget address = true ↔
    Targeted method address
  targets : ∀ address, Targeted method address → ∃ width, (address, width) ∈ extents
  handlers : method.tries ≠ [] → ∃ groups, HandlerList.Holds method.handlers groups
  newInstances : prepared.newInstances = newInstancesIn method.code extents

/-! ## Annotations after the scan -/

theorem Recorded.tiled_of_blank {lookup : WidthLookup} {code : List CodeUnit}
    {extents : List (Nat × Nat)} {annotations : Annotations}
    (htiles : Tiles (IsInstruction lookup code) 0 extents code.length)
    (hrecorded : Recorded extents (.blank code.length) annotations) : annotations.Tiled := by
  rw [Annotations.Tiled, hrecorded.starts_of_blank htiles, hrecorded.size,
    Annotations.size_blank]
  apply htiles.mono
  intro address width hmem _
  exact hrecorded.width address width hmem

/-- After the scan the instructions lie side by side and fill the code. -/
theorem tiled_of_scan {lookup : WidthLookup} {code : List CodeUnit} {result : WidthScan}
    (hscan : scan lookup code (.blank code.length) = .ok result) :
    result.annotations.Tiled ∧ result.annotations.size = code.length := by
  obtain ⟨extents, hchain, hrecorded, -⟩ := chain_of_scan hscan
  refine ⟨hrecorded.tiled_of_blank hchain, ?_⟩
  rw [hrecorded.size, Annotations.size_blank]

/-! ## Annotations after the exception table -/

/-- Of the groups that the handler list may hold there is only one choice. -/
theorem targeted_iff {method : MethodCode} {groups : List (List Handler)}
    (htries : method.tries ≠ []) (hholds : HandlerList.Holds method.handlers groups)
    (address : Nat) :
    Targeted method address ↔ ∃ handler ∈ groups.flatten, handler.address.toNat = address := by
  constructor
  · intro ⟨_, others, hothers, group, hgroup, handler, hhandler, haddress⟩
    rw [hothers.unique hholds] at hgroup
    exact ⟨handler, List.mem_flatten.mpr ⟨group, hgroup, hhandler⟩, haddress⟩
  · intro ⟨handler, hmem, haddress⟩
    obtain ⟨group, hgroup, hhandler⟩ := List.mem_flatten.mp hmem
    exact ⟨htries, groups, hholds, group, hgroup, handler, hhandler, haddress⟩

theorem marked_of_checkTable {method : MethodCode} {annotations : Annotations}
    {result : Nat × Annotations} (htiled : annotations.Tiled) (htries : method.tries ≠ [])
    (hcheck : checkTable method annotations = .ok result) :
    ∃ middle,
      Marked .inTry (fun address => annotations.isStart address = true ∧
        Covered method.tries address) annotations middle ∧
      Marked .branchTarget (Targeted method) middle result.2 ∧
      (∀ address, Targeted method address → annotations.isStart address = true) ∧
      ∃ groups, HandlerList.Holds method.handlers groups := by
  rw [checkTable] at hcheck
  by_cases hsize : annotations.size = method.code.length
  · rw [if_neg (not_not_intro hsize), ← hsize] at hcheck
    cases hdefect : method.tries.findSome? (rangeDefect annotations annotations.size) with
    | some defect =>
        rw [markRanges_of_some htiled hdefect] at hcheck
        simp at hcheck
    | none =>
        obtain ⟨middle, hranges, hmiddle⟩ := markRanges_of_none htiled hdefect
        simp only [hranges] at hcheck
        obtain ⟨groups, hholds, hstarts, hmarked⟩ := marked_of_markHandlers hcheck
        rw [hmiddle.isStart] at hstarts
        have htargeted := targeted_iff htries hholds
        refine ⟨middle, hmiddle, hmarked.congr fun address => (htargeted address).symm, ?_,
          groups, hholds⟩
        intro address haddress
        obtain ⟨handler, hhandler, rfl⟩ := (htargeted address).mp haddress
        exact hstarts handler hhandler
  · rw [if_pos hsize] at hcheck
    simp at hcheck

/-- The marks that the second pass has added, first for the ranges and then for
the handlers. -/
theorem marked_of_triesOutcome {method : MethodCode} {annotations marked : Annotations}
    (htiled : annotations.Tiled) (houtcome : triesOutcome method annotations = .ok marked) :
    ∃ middle,
      Marked .inTry (fun address => annotations.isStart address = true ∧
        Covered method.tries address) annotations middle ∧
      Marked .branchTarget (Targeted method) middle marked ∧
      (∀ address, Targeted method address → annotations.isStart address = true) ∧
      (method.tries ≠ [] → ∃ groups, HandlerList.Holds method.handlers groups) := by
  rw [triesOutcome] at houtcome
  split at houtcome
  · rename_i hempty
    have hnone : method.tries = [] := List.isEmpty_iff.mp hempty
    obtain rfl := Except.ok.inj houtcome
    refine ⟨annotations, (Marked.refl _ _).congr ?_, (Marked.refl _ _).congr ?_, ?_, ?_⟩
    · simp [Covered, hnone]
    · simp [Targeted, hnone]
    · intro address htargeted
      exact absurd hnone htargeted.1
    · exact absurd hnone
  · rename_i hempty
    have htries : method.tries ≠ [] := List.isEmpty_iff.not.mp hempty
    cases hcheck : checkTable method annotations with
    | error halt =>
        rw [hcheck] at houtcome
        simp [Except.map] at houtcome
    | ok result =>
        rw [hcheck] at houtcome
        obtain rfl := Except.ok.inj houtcome
        obtain ⟨middle, hinTry, htarget, hstarts, hholds⟩ :=
          marked_of_checkTable htiled htries hcheck
        exact ⟨middle, hinTry, htarget, hstarts, fun _ => hholds⟩

/-! ## Both passes -/

/-- A method that passes has exactly one chain of instructions, and what comes
out describes the method with that chain. -/
theorem describes_of_prepare {method : MethodCode} {lookup : WidthLookup} {sink : Sink}
    {record : Record} {prepared : Prepared}
    (hprepare : ((prepare method lookup sink).runFrom record).1 = .ok prepared) :
    ∃ extents, Tiles (IsInstruction lookup method.code) 0 extents method.code.length ∧
      (∀ others, Tiles (IsInstruction lookup method.code) 0 others method.code.length →
        others = extents) ∧
      Describes method extents prepared := by
  rw [outcome_prepare] at hprepare
  simp only [bind_eq_ok_iff] at hprepare
  obtain ⟨result, hscan, marked, houtcome, hprepared⟩ := hprepare
  obtain rfl := Except.ok.inj hprepared
  obtain ⟨extents, htiles, hrecorded, hcount⟩ := chain_of_scan hscan
  have hstarts := hrecorded.starts_of_blank htiles
  obtain ⟨middle, hmiddle, hmarked, htargets, hholds⟩ :=
    marked_of_triesOutcome (hrecorded.tiled_of_blank htiles) houtcome
  refine ⟨extents, htiles, fun others hothers => chain_unique hothers htiles, ?_⟩
  constructor
  · calc marked.size = middle.size := hmarked.size
      _ = result.annotations.size := hmiddle.size
      _ = (Annotations.blank method.code.length).size := hrecorded.size
      _ = method.code.length := Annotations.size_blank method.code.length
  · calc marked.starts = middle.starts := hmarked.starts
      _ = result.annotations.starts := hmiddle.starts
      _ = extents := hstarts
  · rw [← htiles.start_add_sum, Nat.zero_add]
  · intro address
    have hblank : result.annotations.has .inTry address = false := by
      rw [hrecorded.has, Annotations.has_blank]
    rw [hmarked.others .inTry (by decide), hmiddle.has, hblank, Annotations.isStart_iff, hstarts]
    simp
  · intro address
    have hblank : middle.has .branchTarget address = false := by
      rw [hmiddle.others .branchTarget (by decide), hrecorded.has, Annotations.has_blank]
    rw [hmarked.has, hblank]
    simp
  · intro address htargeted
    rw [← hstarts]
    exact Annotations.isStart_iff.mp (htargets address htargeted)
  · exact hholds
  · exact hcount

/-- An allocation of two code units and a return.  The try range stops inside
the allocation, and its catch-all is the return. -/
def guardedAllocation : MethodCode :=
  ⟨[0x0022, 0x0000, 0x000e], [⟨0, 1, 1⟩], [1, 0, 2], none⟩

theorem prepare_guardedAllocation :
    ((prepare guardedAllocation dalvikWidth .recorder).runFrom []).1 =
      .ok ⟨⟨#[0x10002, 0, 0x20001]⟩, 1⟩ := by
  rw [outcome_prepare]
  cbv

theorem describes_guardedAllocation :
    ((prepare guardedAllocation dalvikWidth .recorder).runFrom []).1 =
        .ok ⟨⟨#[0x10002, 0, 0x20001]⟩, 1⟩ ∧
      ∃ extents, Tiles (IsInstruction dalvikWidth guardedAllocation.code) 0 extents 3 ∧
        (∀ others, Tiles (IsInstruction dalvikWidth guardedAllocation.code) 0 others 3 →
          others = extents) ∧
        Describes guardedAllocation extents ⟨⟨#[0x10002, 0, 0x20001]⟩, 1⟩ :=
  ⟨prepare_guardedAllocation, describes_of_prepare prepare_guardedAllocation⟩

end DalvikPrepass.Prepass
