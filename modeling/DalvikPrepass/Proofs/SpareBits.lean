import Mathlib
import DalvikPrepass.Proofs.PassOutcome
import DalvikPrepass.Proofs.TryMarks

/-!
# Spare bits

The pass over the exception table changes annotations only by adding marks one
at a time, so it keeps everything that each such step keeps.  In particular it
keeps the bits that hold neither a width nor a mark.
-/

namespace DalvikPrepass.Prepass

/-- Adding a mark keeps the property. -/
structure KeptByMarks (kept : Annotations → Prop) : Prop where
  setMark : ∀ {before after : Annotations} {mark : Mark} {address : Nat},
    before.setMark mark address true = .ok after → kept before → kept after

namespace KeptByMarks

variable {kept : Annotations → Prop} {before after : Annotations}

/-- What no mark changes survives the walk over a range. -/
theorem markInstructions (hkept : KeptByMarks kept) {stop address : Nat}
    (hmark : markInstructions stop address before = .ok after) (hbefore : kept before) :
    kept after := by
  fun_induction Prepass.markInstructions stop address before with
  | case1 => simp at hmark
  | case2 => simp at hmark
  | case3 address before _ _ _ updated hset _ ih => exact ih hmark (hkept.setMark hset hbefore)
  | case4 =>
      obtain rfl := Except.ok.inj hmark
      exact hbefore

theorem markRanges (hkept : KeptByMarks kept) {length : Nat} {items : List TryItem}
    (hmark : markRanges length items before = .ok after) (hbefore : kept before) : kept after := by
  induction items generalizing before with
  | nil =>
      obtain rfl := Except.ok.inj hmark
      exact hbefore
  | cons item items ih =>
      rw [Prepass.markRanges] at hmark
      split at hmark
      · simp at hmark
      · split at hmark
        · simp at hmark
        · rename_i hfirst
          exact ih hmark (hkept.markInstructions hfirst hbefore)

/-- What no mark changes survives the check of the handlers. -/
theorem markTargets (hkept : KeptByMarks kept) {handlers : List Handler}
    (hmark : markTargets handlers before = .ok after) (hbefore : kept before) : kept after := by
  induction handlers generalizing before with
  | nil =>
      obtain rfl := Except.ok.inj hmark
      exact hbefore
  | cons handler handlers ih =>
      rw [Prepass.markTargets] at hmark
      split at hmark
      · split at hmark
        · simp at hmark
        · rename_i hset
          exact ih hmark (hkept.setMark hset hbefore)
      · simp at hmark

theorem markHandlers (hkept : KeptByMarks kept) {data : Bytes} {result : Nat × Annotations}
    (hmark : markHandlers data before = .ok result) (hbefore : kept before) : kept result.2 := by
  rw [Prepass.markHandlers] at hmark
  split at hmark
  · simp at hmark
  · split at hmark
    · simp at hmark
    · simp at hmark
    · rename_i htargets _
      obtain rfl := Except.ok.inj hmark
      exact hkept.markTargets htargets hbefore

theorem checkTable (hkept : KeptByMarks kept) {method : MethodCode} {result : Nat × Annotations}
    (hcheck : checkTable method before = .ok result) (hbefore : kept before) : kept result.2 := by
  rw [Prepass.checkTable] at hcheck
  split at hcheck
  · simp at hcheck
  · split at hcheck
    · simp at hcheck
    · rename_i hranges
      exact hkept.markHandlers hcheck (hkept.markRanges hranges hbefore)

/-- What no mark changes survives the whole pass over the exception table. -/
theorem triesOutcome (hkept : KeptByMarks kept) {method : MethodCode}
    (htries : triesOutcome method before = .ok after) (hbefore : kept before) : kept after := by
  rw [Prepass.triesOutcome] at htries
  split at htries
  · obtain rfl := Except.ok.inj htries
    exact hbefore
  · cases hcheck : Prepass.checkTable method before with
    | error halt => simp [hcheck, Except.map] at htries
    | ok result =>
        rw [hcheck] at htries
        obtain rfl := Except.ok.inj htries
        exact hkept.checkTable hcheck hbefore

end KeptByMarks

theorem keptByMarks_spare (spare : Nat → UInt32) :
    KeptByMarks fun annotations => annotations.spare = spare where
  setMark hset hbefore := (Annotations.spare_of_setMark hset).trans hbefore

/-- The pass over the exception table writes marks only. -/
theorem spare_of_triesOutcome {method : MethodCode} {before after : Annotations}
    (htries : triesOutcome method before = .ok after) : after.spare = before.spare :=
  (keptByMarks_spare before.spare).triesOutcome htries rfl

end DalvikPrepass.Prepass
