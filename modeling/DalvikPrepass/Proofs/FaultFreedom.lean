import Mathlib
import DalvikPrepass.Proofs.PreparedMethod

/-!
# Runs without faults

Preparing a method ends with a result or a rejection, whatever its code, its
exception table and the width lookup are.  The widths that a scan leaves on
blank annotations tile the code, and no pass changes them again, so the walk
over a try range goes from one instruction start to the next.
-/

namespace DalvikPrepass.Prepass

/-! ## Outcomes that are no faults -/

/-- A result or a rejection. -/
inductive Settled {α : Type} : Except Halt α → Prop
  | ok (value : α) : Settled (.ok value)
  | rejected (defect : Defect) : Settled (.error (.rejected defect))

namespace Settled

variable {α β : Type}

theorem bind {first : Except Halt α} {next : α → Except Halt β} (hfirst : Settled first)
    (hnext : ∀ value, first = .ok value → Settled (next value)) : Settled (first >>= next) := by
  cases hfirst with
  | ok value => exact hnext value rfl
  | rejected defect => exact .rejected defect

theorem map {outcome : Except Halt α} (houtcome : Settled outcome) (change : α → β) :
    Settled (outcome.map change) := by
  cases houtcome with
  | ok value => exact .ok (change value)
  | rejected defect => exact .rejected defect

end Settled

/-- The scan writes inside the annotations. -/
theorem settled_scan (lookup : WidthLookup) {code : List CodeUnit} {annotations : Annotations}
    (hsize : annotations.size = code.length) : Settled (scan lookup code annotations) := by
  obtain ⟨extents, stop, -, hends⟩ := scan_ends lookup hsize
  generalize scan lookup code annotations = outcome at hends
  cases hends with
  | complete => exact .ok _
  | cut | invalid | insane => exact .rejected _

theorem settled_markTargets (handlers : List Handler) (annotations : Annotations) :
    Settled (markTargets handlers annotations) := by
  cases hfind : handlers.find? fun handler => !annotations.isStart handler.address.toNat with
  | none =>
      obtain ⟨marked, hrun, -⟩ := markTargets_of_none hfind
      rw [hrun]
      exact .ok marked
  | some handler =>
      rw [markTargets_of_some hfind]
      exact .rejected _

theorem settled_markHandlers (handlers : Bytes) (annotations : Annotations) :
    Settled (markHandlers handlers annotations) := by
  rw [markHandlers]
  split
  · exact .rejected _
  · rename_i walk _
    have htargets := settled_markTargets walk.handlers annotations
    split
    · rename_i halt hhalt
      rw [hhalt] at htargets
      cases htargets
      exact .rejected _
    · exact .rejected _
    · exact .ok _

/-- In tiled annotations the walk over a range meets no gap and stays inside. -/
theorem settled_markRanges (items : List TryItem) {annotations : Annotations}
    (htiled : annotations.Tiled) : Settled (markRanges annotations.size items annotations) := by
  cases hdefect : items.findSome? (rangeDefect annotations annotations.size) with
  | none =>
      obtain ⟨marked, hrun, -⟩ := markRanges_of_none htiled hdefect
      rw [hrun]
      exact .ok marked
  | some defect =>
      rw [markRanges_of_some htiled hdefect]
      exact .rejected defect

/-- In tiled annotations the second pass has no fault. -/
theorem settled_triesOutcome (method : MethodCode) {annotations : Annotations}
    (htiled : annotations.Tiled) (hsize : annotations.size = method.code.length) :
    Settled (triesOutcome method annotations) := by
  rw [triesOutcome]
  split
  · exact .ok annotations
  · apply Settled.map
    rw [checkTable, if_neg (not_not_intro hsize), ← hsize]
    have hranges := settled_markRanges method.tries htiled
    split
    · rename_i halt hhalt
      rw [hhalt] at hranges
      cases hranges
      exact .rejected _
    · exact settled_markHandlers _ _

/-! ## The walk over a try range -/

/-- The walk that stops at `stop` comes from one address to another if it goes
on by the width at each address. -/
inductive Visits (width : Nat → Nat) (stop : Nat) : Nat → Nat → Prop
  | here {address : Nat} (hbefore : address < stop) : Visits width stop address address
  | next {address place : Nat} (hbefore : address < stop)
      (hrest : Visits width stop (address + width address) place) :
      Visits width stop address place

theorem Visits.lt {width : Nat → Nat} {stop address place : Nat}
    (hvisits : Visits width stop address place) : address < stop := by
  cases hvisits with
  | here hbefore => exact hbefore
  | next hbefore _ => exact hbefore

/-- The walk marks just the addresses that it visits.  It finds the same widths
all along, since a mark does not change them. -/
theorem marked_of_markInstructions {stop address : Nat} {annotations marked : Annotations}
    (hrun : markInstructions stop address annotations = .ok marked) :
    Marked .inTry (Visits annotations.width stop address) annotations marked := by
  fun_induction markInstructions stop address annotations with
  | case1 => simp at hrun
  | case2 => simp at hrun
  | case3 address annotations hbefore width hzero updated hset _ ih =>
      have hupdated := Marked.of_setMark hset
      apply (hupdated.trans (ih hrun)).congr
      intro place
      rw [hupdated.width]
      constructor
      · rintro (rfl | hrest)
        · exact .here hbefore
        · exact .next hbefore hrest
      · intro hvisits
        cases hvisits with
        | here => exact .inl rfl
        | next _ hrest => exact .inr hrest
  | case4 address annotations hbeyond =>
      obtain rfl := Except.ok.inj hrun
      apply (Marked.refl .inTry annotations).congr
      intro place
      rw [false_iff]
      intro hvisits
      exact hbeyond hvisits.lt

/-- Behind an instruction that does not end the code the next one starts. -/
theorem isStart_next {annotations : Annotations} {address : Nat} (htiled : annotations.Tiled)
    (hstart : annotations.isStart address = true)
    (hinside : address + annotations.width address < annotations.size) :
    annotations.isStart (address + annotations.width address) = true := by
  obtain ⟨width, hmem⟩ := Annotations.isStart_iff.mp hstart
  obtain ⟨rfl, -⟩ := Annotations.mem_starts.mp hmem
  exact Annotations.isStart_iff.mpr (htiled.exists_next hmem hinside)

/-- A walk that starts on an instruction only visits instruction starts. -/
theorem isStart_of_visits {annotations : Annotations} {stop address place : Nat}
    (htiled : annotations.Tiled) (hstop : stop ≤ annotations.size)
    (hvisits : Visits annotations.width stop address place)
    (hstart : annotations.isStart address = true) : annotations.isStart place = true := by
  induction hvisits with
  | here => exact hstart
  | next _ hrest ih =>
      apply ih
      exact isStart_next htiled hstart (Nat.lt_of_lt_of_le hrest.lt hstop)

/-- A walk that never meets a gap does not depend on the build. -/
theorem outcome_coverRange_of_ok {stop address : Nat} {annotations marked : Annotations}
    (hrun : markInstructions stop address annotations = .ok marked) (build : Build)
    (record : Record) :
    ((coverRange stop address annotations).runIn build record).1 = .ok marked := by
  fun_induction markInstructions stop address annotations generalizing record with
  | case1 => simp at hrun
  | case2 => simp at hrun
  | case3 address annotations hbefore width hzero updated hset _ ih =>
      exact outcome_coverRange_step hbefore hzero hset (ih hrun) record
  | case4 address annotations hbeyond =>
      rw [coverRange, dif_neg hbeyond, ← hrun]
      rfl

/-- The walk over a try range comes to its end in every build.  It marks the
addresses that it visits, each of which starts an instruction of the code. -/
structure Walks (item : TryItem) (annotations marked : Annotations) : Prop where
  run : ∀ build record,
    ((coverRange item.stop item.start.toNat annotations).runIn build record).1 = .ok marked
  marks : Marked .inTry (Visits annotations.width item.stop item.start.toNat) annotations marked
  inside : ∀ place, Visits annotations.width item.stop item.start.toNat place →
    annotations.width place ≠ 0 ∧ place < annotations.size

/-- Every range without a defect is walked, after any ranges before it. -/
theorem exists_walk {items : List TryItem} {item : TryItem} {annotations middle : Annotations}
    (htiled : annotations.Tiled) (hrun : markRanges annotations.size items annotations = .ok middle)
    (hitem : rangeDefect middle annotations.size item = none) :
    ∃ marked, Walks item middle marked := by
  cases hdefect : items.findSome? (rangeDefect annotations annotations.size) with
  | some defect =>
      rw [markRanges_of_some htiled hdefect] at hrun
      cases hrun
  | none =>
      obtain ⟨found, hfound, hmarked⟩ := markRanges_of_none htiled hdefect
      obtain rfl := Except.ok.inj (hfound.symm.trans hrun)
      rw [← hmarked.size] at hitem
      obtain ⟨-, hinside, hstart⟩ := rangeDefect_eq_none_iff.mp hitem
      have hmiddle := hmarked.tiled htiled
      obtain ⟨marked, hwalk, -⟩ := markInstructions_of_tiled hmiddle hstart hinside
      refine ⟨marked, outcome_coverRange_of_ok hwalk, marked_of_markInstructions hwalk, ?_⟩
      intro place hvisits
      have hwidth := bne_iff_ne.mp (isStart_of_visits hmiddle hinside hvisits hstart)
      exact ⟨hwidth, Annotations.lt_size_of_width_ne_zero hwidth⟩

/-! ## Builds -/

section Builds

variable {method : MethodCode} {annotations : Annotations}
  (htiled : annotations.Tiled) (hsize : annotations.size = method.code.length)

include htiled hsize

/-- Where the instructions lie end to end the builds do not differ. -/
theorem outcome_coverRanges_of_tiled (items : List TryItem) (sink : Sink) (build : Build)
    (record : Record) :
    ((coverRanges method sink items annotations).runIn build record).1 =
      markRanges method.code.length items annotations := by
  induction items generalizing annotations record with
  | nil => rfl
  | cons item items ih =>
      have hcheck : ((checkRange method sink item annotations).runIn build record).1 = _ :=
        outcome_checkRange method sink item annotations record
      cases hitem : rangeDefect annotations method.code.length item with
      | some defect =>
          rw [hitem] at hcheck
          rw [markRanges, hitem]
          exact Pass.outcome_bind_of_error hcheck
      | none =>
          rw [hitem] at hcheck
          rw [← hsize] at hitem
          obtain ⟨-, hinside, hstart⟩ := rangeDefect_eq_none_iff.mp hitem
          obtain ⟨middle, hrun, hmiddle⟩ := markInstructions_of_tiled htiled hstart hinside
          rw [hsize] at hitem
          rw [markRanges, hitem]
          simp only [hrun]
          apply Pass.outcome_bind_of_ok hcheck
          intro record
          apply Pass.outcome_bind_of_ok (outcome_coverRange_of_ok hrun build record)
          exact ih (hmiddle.tiled htiled) (hmiddle.size.trans hsize)

/-- In tiled annotations the builds check the exception table alike. -/
theorem outcome_markTries_of_tiled (sink : Sink) (build : Build) (record : Record) :
    ((markTries method annotations sink).runIn build record).1 =
      triesOutcome method annotations := by
  by_cases htries : method.tries = []
  · exact outcome_markTries_of_nil htries annotations record
  · rw [triesOutcome_of_ne_nil htries hsize]
    apply outcome_markTries_of_ranges htries hsize
    exact outcome_coverRanges_of_tiled htiled hsize method.tries sink build

end Builds

/-- Preparing a method ends in the same way in every build. -/
theorem outcome_prepare_runIn (method : MethodCode) (lookup : WidthLookup) (sink : Sink)
    (build : Build) (record : Record) :
    ((prepare method lookup sink).runIn build record).1 =
      ((prepare method lookup sink).runFrom record).1 := by
  rw [outcome_prepare]
  apply outcome_prepare_of_scan
  intro result hscan
  obtain ⟨htiled, hsize⟩ := tiled_of_scan hscan
  exact outcome_markTries_of_tiled htiled hsize sink build

/-! ## Whole runs -/

theorem refuse_eq_ok_iff {defect : Option Defect} : refuse defect = .ok () ↔ defect = none := by
  cases defect <;> simp [refuse]

/-- Preparing a method never faults, whether or not the program checks its own
assertions.  Both passes get annotations of the method's size, and every try range
that is walked, after whatever ranges before it, is walked over instruction
starts. -/
theorem prepare_settles (method : MethodCode) (lookup : WidthLookup) (sink : Sink)
    (build : Build) (record : Record) :
    Settled ((prepare method lookup sink).runIn build record).1 ∧
      (Annotations.blank method.code.length).size = method.code.length ∧
      ∀ result,
        ((recordWidths method lookup (.blank method.code.length) sink).runIn build record).1 =
          .ok result →
        result.annotations.size = method.code.length ∧
        ∀ earlier item later middle, method.tries = earlier ++ item :: later →
          ((coverRanges method sink earlier result.annotations).runIn build record).1 = .ok middle →
          ((checkRange method sink item middle).runIn build record).1 = .ok () →
          ∃ marked, Walks item middle marked := by
  have hblank := Annotations.size_blank method.code.length
  refine ⟨?_, hblank, ?_⟩
  · rw [outcome_prepare_runIn, outcome_prepare]
    apply (settled_scan lookup hblank).bind
    intro result hscan
    obtain ⟨htiled, hsize⟩ := tiled_of_scan hscan
    apply (settled_triesOutcome method htiled hsize).bind
    intro marked _
    exact .ok _
  · intro result hscan
    rw [outcome_recordWidths] at hscan
    obtain ⟨htiled, hsize⟩ := tiled_of_scan hscan
    refine ⟨hsize, ?_⟩
    intro earlier item later middle _ hrun hitem
    rw [outcome_coverRanges_of_tiled htiled hsize, ← hsize] at hrun
    rw [outcome_checkRange, refuse_eq_ok_iff, ← hsize] at hitem
    exact exists_walk htiled hrun hitem

/-- The range of the guarded allocation is the first of its table. -/
theorem prepare_settles_guardedAllocation :
    ((recordWidths guardedAllocation dalvikWidth (.blank 3) .recorder).runIn .debug []).1 =
        .ok ⟨⟨#[2, 0, 1]⟩, 1⟩ ∧
      guardedAllocation.tries = [] ++ ⟨0, 1, 1⟩ :: [] ∧
      ((coverRanges guardedAllocation .recorder [] ⟨#[2, 0, 1]⟩).runIn .debug []).1 =
        .ok ⟨#[2, 0, 1]⟩ ∧
      ((checkRange guardedAllocation .recorder ⟨0, 1, 1⟩ ⟨#[2, 0, 1]⟩).runIn .debug []).1 =
        .ok () ∧
      ∃ marked, Walks ⟨0, 1, 1⟩ ⟨#[2, 0, 1]⟩ marked := by
  have hscan : ((recordWidths guardedAllocation dalvikWidth (.blank 3) .recorder).runIn
      .debug []).1 = .ok ⟨⟨#[2, 0, 1]⟩, 1⟩ := by
    rw [outcome_recordWidths]
    cbv
  have hitem : ((checkRange guardedAllocation .recorder ⟨0, 1, 1⟩ ⟨#[2, 0, 1]⟩).runIn
      .debug []).1 = .ok () := by
    rw [outcome_checkRange, refuse_eq_ok_iff]
    decide
  refine ⟨hscan, rfl, rfl, hitem, ?_⟩
  have hwalks := (prepare_settles guardedAllocation dalvikWidth .recorder .debug []).2.2 _ hscan
  exact hwalks.2 [] _ [] _ rfl rfl hitem

end DalvikPrepass.Prepass
