import Mathlib
import DalvikPrepass.Proofs.FaultFreedom

/-!
# Passes run again

What a pass finds out depends on the annotations only as far as it uses them,
and resetting them leaves nothing to be used.  On annotations that hold a
method's widths and marks already, either pass writes what is there, so both can
be run again in any order without changing anything.
-/

namespace DalvikPrepass

namespace Annotations

/-! ## Writes of what is there -/

theorem or_bit_of_and_bit {word : UInt32} {mark : Mark} (hbit : word &&& mark.bit ≠ 0) :
    word ||| mark.bit = word := by
  obtain ⟨place, hplace⟩ := bit_eq_two_pow mark
  have hset : word.toNat.testBit place = true := by
    by_contra hclear
    apply hbit
    apply UInt32.toNat_inj.mp
    rw [UInt32.toNat_and, hplace, Nat.and_two_pow, Bool.eq_false_of_not_eq_true hclear]
    simp
  apply UInt32.toNat_inj.mp
  rw [UInt32.toNat_or, hplace]
  apply Nat.eq_of_testBit_eq
  intro other
  rw [Nat.testBit_or, Nat.testBit_two_pow]
  by_cases hother : place = other
  · subst hother
    rw [hset, Bool.true_or]
  · rw [decide_eq_false hother, Bool.or_false]

/-- Setting a mark that is set changes nothing. -/
theorem setMark_of_has {annotations : Annotations} {mark : Mark} {address : Nat}
    (hhas : annotations.has mark address = true) :
    annotations.setMark mark address true = .ok annotations := by
  have hbit : annotations.word address &&& mark.bit ≠ 0 := bne_iff_ne.mp hhas
  have hinside : address < annotations.size := by
    by_contra hbeyond
    apply hbit
    rw [word_of_size_le (Nat.le_of_not_lt hbeyond), UInt32.zero_and]
  obtain ⟨updated, hupdate⟩ := update_of_lt
    (fun word => if true then word ||| mark.bit else word &&& ~~~mark.bit) hinside
  have hword : updated.word = annotations.word := by
    rw [word_of_update hupdate, if_pos rfl, or_bit_of_and_bit hbit, Function.update_eq_self]
  have hsame : updated = annotations := by
    apply eq_of_word_eq (size_of_update hupdate)
    intro other _
    rw [hword]
  rw [setMark, hupdate, hsame]

/-! ## Annotations with more marks -/

/-- The other annotations are for the same instructions and have at least the
same marks. -/
structure Extends (annotations others : Annotations) : Prop where
  size : others.size = annotations.size
  width : others.width = annotations.width
  has : ∀ mark address, annotations.has mark address = true → others.has mark address = true

namespace Extends

variable {annotations others last : Annotations}

theorem refl (annotations : Annotations) : annotations.Extends annotations :=
  ⟨rfl, rfl, fun _ _ => id⟩

theorem trans (hleft : annotations.Extends others) (hright : others.Extends last) :
    annotations.Extends last where
  size := hright.size.trans hleft.size
  width := hright.width.trans hleft.width
  has mark address hhas := hright.has mark address (hleft.has mark address hhas)

theorem isStart (hextends : annotations.Extends others) : others.isStart = annotations.isStart := by
  funext address
  rw [Annotations.isStart, Annotations.isStart, hextends.width]

end Extends

end Annotations

namespace Prepass

/-- Marking only adds marks. -/
theorem Marked.toExtends {mark : Mark} {added : Nat → Prop} {before after : Annotations}
    (hmarked : Marked mark added before after) : before.Extends after where
  size := hmarked.size
  width := hmarked.width
  has other address hhas := by
    by_cases hother : other = mark
    · rw [hother] at hhas ⊢
      exact (hmarked.has address).mpr (.inl hhas)
    · rw [hmarked.others other hother]
      exact hhas

/-! ## Checks that only add marks -/

/-- The check only adds marks.  Where those that it added once are there, it
passes and adds none. -/
structure Absorbing (check : Annotations → Except Halt Annotations) : Prop where
  adds : ∀ {before after}, check before = .ok after → before.Extends after
  again : ∀ {before after others}, check before = .ok after → after.Extends others →
    check others = .ok others

namespace Absorbing

variable {check next : Annotations → Except Halt Annotations}

theorem ok : Absorbing .ok where
  adds hcheck := by
    obtain rfl := Except.ok.inj hcheck
    exact .refl _
  again _ _ := rfl

theorem bind (hcheck : Absorbing check) (hnext : Absorbing next) :
    Absorbing fun annotations => check annotations >>= next where
  adds hboth := by
    obtain ⟨middle, hfirst, hsecond⟩ := bind_eq_ok_iff.mp hboth
    exact (hcheck.adds hfirst).trans (hnext.adds hsecond)
  again hboth hextends := by
    obtain ⟨middle, hfirst, hsecond⟩ := bind_eq_ok_iff.mp hboth
    apply bind_eq_ok_iff.mpr
    refine ⟨_, hcheck.again hfirst ((hnext.adds hsecond).trans hextends), ?_⟩
    exact hnext.again hsecond hextends

/-- A test in front of the check may look at anything but marks. -/
theorem guard {test : Annotations → Except Halt Unit} (hcheck : Absorbing check)
    (htest : ∀ {annotations others}, annotations.Extends others → test others = test annotations) :
    Absorbing fun annotations => test annotations >>= fun _ => check annotations where
  adds hboth := by
    obtain ⟨-, -, hafter⟩ := bind_eq_ok_iff.mp hboth
    exact hcheck.adds hafter
  again hboth hextends := by
    obtain ⟨_, hpassed, hafter⟩ := bind_eq_ok_iff.mp hboth
    apply bind_eq_ok_iff.mpr
    refine ⟨(), ?_, hcheck.again hafter hextends⟩
    rw [htest ((hcheck.adds hafter).trans hextends), hpassed]

end Absorbing

theorem absorbing_markInstructions (stop address : Nat) :
    Absorbing (markInstructions stop address) where
  adds hrun := (marked_of_markInstructions hrun).toExtends
  again := by
    intro before after others hrun hextends
    fun_induction markInstructions stop address before with
    | case1 => simp at hrun
    | case2 => simp at hrun
    | case3 address before hbefore width hzero updated hset _ ih =>
        have hupdated := Marked.of_setMark hset
        have hothers := (marked_of_markInstructions hrun).toExtends.trans hextends
        have hmarked : others.has .inTry address = true :=
          hothers.has .inTry address ((hupdated.has address).mpr (.inr rfl))
        have hwidth : others.width address = width := by rw [hothers.width, hupdated.width]
        rw [markInstructions, dif_pos hbefore]
        simp only [hwidth, dif_neg hzero, Annotations.setMark_of_has hmarked]
        exact ih hrun
    | case4 address before hbeyond => rw [markInstructions, dif_neg hbeyond]

theorem absorbing_markRanges (length : Nat) (items : List TryItem) :
    Absorbing (markRanges length items) := by
  induction items with
  | nil => exact .ok
  | cons item items ih =>
      have hstep : markRanges length (item :: items) = fun annotations =>
          refuse (rangeDefect annotations length item) >>= fun _ =>
            markInstructions item.stop item.start.toNat annotations >>=
              markRanges length items := by
        funext annotations
        rw [markRanges]
        cases rangeDefect annotations length item with
        | some defect => rfl
        | none => cases markInstructions item.stop item.start.toNat annotations <;> rfl
      rw [hstep]
      apply ((absorbing_markInstructions _ _).bind ih).guard
      intro annotations others hextends
      rw [rangeDefect, rangeDefect, hextends.isStart]

theorem mapError_eq_ok_iff {ε δ α : Type} {outcome : Except ε α} {change : ε → δ} {value : α} :
    outcome.mapError change = .ok value ↔ outcome = .ok value := by
  cases outcome <;> simp [Except.mapError]

theorem absorbing_setMark (mark : Mark) (address : Nat) :
    Absorbing fun annotations =>
      (annotations.setMark mark address true).mapError Halt.fault where
  adds hset := (Marked.of_setMark (mapError_eq_ok_iff.mp hset)).toExtends
  again hset hextends := by
    have hmarked := Marked.of_setMark (mapError_eq_ok_iff.mp hset)
    have hhas := hextends.has mark address ((hmarked.has address).mpr (.inr rfl))
    exact mapError_eq_ok_iff.mpr (Annotations.setMark_of_has hhas)

theorem absorbing_markTargets (handlers : List Handler) : Absorbing (markTargets handlers) := by
  induction handlers with
  | nil => exact .ok
  | cons handler handlers ih =>
      have hstep : markTargets (handler :: handlers) = fun annotations =>
          refuse (if annotations.isStart handler.address.toNat then none
            else some (.badHandlerTarget handler.address.toNat)) >>= fun _ =>
              (annotations.setMark .branchTarget handler.address.toNat true).mapError Halt.fault >>=
                markTargets handlers := by
        funext annotations
        rw [markTargets]
        cases annotations.isStart handler.address.toNat with
        | false => rfl
        | true => cases annotations.setMark .branchTarget handler.address.toNat true <;> rfl
      rw [hstep]
      apply ((absorbing_setMark _ _).bind ih).guard
      intro annotations others hextends
      rw [hextends.isStart]

theorem absorbing_markHandlers (data : Bytes) :
    Absorbing fun annotations => (markHandlers data annotations).map Prod.snd := by
  by_cases hread : ∃ groups, HandlerList.Holds data groups
  · obtain ⟨groups, hholds⟩ := hread
    have hmark : (fun annotations => (markHandlers data annotations).map Prod.snd) =
        markTargets groups.flatten := by
      funext annotations
      rw [markHandlers_of_holds hholds]
      cases markTargets groups.flatten annotations <;> rfl
    rw [hmark]
    exact absorbing_markTargets groups.flatten
  · -- A list that cannot be read to its end never passes.
    have hfails {before after : Annotations}
        (hmark : (markHandlers data before).map Prod.snd = .ok after) : False := by
      cases hresult : markHandlers data before with
      | error halt => simp [hresult, Except.map] at hmark
      | ok result => exact hread (holds_of_markHandlers hresult)
    exact ⟨fun hmark => (hfails hmark).elim, fun hmark => (hfails hmark).elim⟩

/-- Once the exception table has been checked, checking it again changes nothing. -/
theorem absorbing_triesOutcome (method : MethodCode) : Absorbing (triesOutcome method) := by
  by_cases hempty : method.tries.isEmpty
  · have houtcome : triesOutcome method = .ok := by
      funext annotations
      rw [triesOutcome, if_pos hempty]
    rw [houtcome]
    exact .ok
  · have houtcome : triesOutcome method = fun annotations =>
        (if annotations.size = method.code.length then .ok ()
          else .error (.fault (.sizeMismatch annotations.size method.code.length))) >>= fun _ =>
            markRanges method.code.length method.tries annotations >>= fun annotations =>
              (markHandlers method.handlers annotations).map Prod.snd := by
      funext annotations
      rw [triesOutcome, if_neg hempty, checkTable]
      by_cases hsize : annotations.size = method.code.length
      · rw [if_neg (not_not_intro hsize), if_pos hsize]
        cases markRanges method.code.length method.tries annotations <;> rfl
      · rw [if_pos hsize, if_neg hsize]
        rfl
    rw [houtcome]
    apply ((absorbing_markRanges _ _).bind (absorbing_markHandlers _)).guard
    intro annotations others hextends
    rw [hextends.size]

/-! ## Widths that are recorded already -/

theorem size_of_scan {lookup : WidthLookup} {code : List CodeUnit} {annotations : Annotations}
    {result : WidthScan} (hscan : scan lookup code annotations = .ok result) :
    annotations.size = code.length := by
  by_contra hsize
  rw [scan, if_pos hsize] at hscan
  simp at hscan

/-- A scan that has once passed passes again on all annotations with the widths
that it left, and changes none of them. -/
theorem scan_again {lookup : WidthLookup} {code : List CodeUnit} {annotations others : Annotations}
    {result : WidthScan} (hscan : scan lookup code annotations = .ok result)
    (hextends : result.annotations.Extends others) :
    scan lookup code others = .ok ⟨others, result.newInstances⟩ := by
  obtain ⟨extents, hchain, hrecorded, hcount⟩ := chain_of_scan hscan
  have hsize : others.size = code.length := by
    rw [hextends.size, hrecorded.size, size_of_scan hscan]
  obtain ⟨written, hwritten, hagain⟩ := scan_of_complete hchain hsize
  have hwidth (address : Nat) : written.width address = others.width address := by
    by_cases hmem : ∃ width, (address, width) ∈ extents
    · obtain ⟨width, hmem⟩ := hmem
      rw [hwritten.width address width hmem, hextends.width, hrecorded.width address width hmem]
    · exact hwritten.others address (not_exists.mp hmem)
  have hsame : written = others := by
    apply Annotations.eq_of_word_eq hwritten.size
    intro address _
    apply Annotations.word_eq_of_parts (hwidth address)
    exact congrFun (aboveWidth_of_scan hagain) address
  rw [hagain, hsame, hcount]

/-! ## Sequences of passes -/

/-- Both passes in turn, on annotations that are given. -/
def prepareOn (method : MethodCode) (lookup : WidthLookup) (annotations : Annotations)
    (sink : Sink) : Pass Prepared := do
  let scan ← recordWidths method lookup annotations sink
  let marked ← markTries method scan.annotations sink
  return ⟨marked, scan.newInstances⟩

/-- Both passes on annotations that need not be blank. -/
theorem outcome_prepareOn (method : MethodCode) (lookup : WidthLookup) (annotations : Annotations)
    (sink : Sink) (record : Record) :
    ((prepareOn method lookup annotations sink).runFrom record).1 = do
      let result ← scan lookup method.code annotations
      let marked ← triesOutcome method result.annotations
      return ⟨marked, result.newInstances⟩ := by
  apply Pass.outcome_bind (outcome_recordWidths _ _ _ _ _)
  intro result record
  apply Pass.outcome_bind (outcome_markTries _ _ _ _)
  intro marked record
  rfl

inductive Stage where
  | widths
  | tries
  deriving DecidableEq, Repr

/-- The passes one after the other on the same annotations.  Gives the counts
that were found and the annotations after the last pass. -/
def runStages (method : MethodCode) (lookup : WidthLookup) (sink : Sink) :
    List Stage → Annotations → Pass (List Nat × Annotations)
  | [], annotations => return ([], annotations)
  | .widths :: stages, annotations => do
      let scan ← recordWidths method lookup annotations sink
      let (counts, last) ← runStages method lookup sink stages scan.annotations
      return (scan.newInstances :: counts, last)
  | .tries :: stages, annotations => do
      let marked ← markTries method annotations sink
      runStages method lookup sink stages marked

/-- Passes that change nothing can be run any number of times in any order. -/
theorem runStages_of_fixed {method : MethodCode} {lookup : WidthLookup} {annotations : Annotations}
    {count : Nat} (hscan : scan lookup method.code annotations = .ok ⟨annotations, count⟩)
    (htries : triesOutcome method annotations = .ok annotations) (stages : List Stage) (sink : Sink)
    (record : Record) :
    ((runStages method lookup sink stages annotations).runFrom record).1 =
      .ok (List.replicate (stages.count .widths) count, annotations) := by
  induction stages generalizing record with
  | nil => rfl
  | cons stage stages ih =>
      cases stage with
      | widths =>
          rw [runStages, List.count_cons_self, List.replicate_succ]
          apply Pass.outcome_bind_of_ok ((outcome_recordWidths _ _ _ _ _).trans hscan)
          intro record
          apply Pass.outcome_bind_of_ok (ih record)
          intro record
          rfl
      | tries =>
          rw [runStages, List.count_cons_of_ne (by decide)]
          apply Pass.outcome_bind_of_ok ((outcome_markTries _ _ _ _).trans htries)
          exact ih

/-- Both passes on reset annotations do what they do in preparing the method,
whatever the annotations held before.  If the method passes, either pass can
then be run again any number of times, in any order: it finds the same count and
leaves the annotations as they are. -/
theorem prepareOn_reset {method : MethodCode} {annotations : Annotations}
    (hsize : annotations.size = method.code.length) (lookup : WidthLookup) (sink other : Sink)
    (record before : Record) :
    ((prepareOn method lookup annotations.reset sink).runFrom record).1 =
        ((prepare method lookup other).runFrom before).1 ∧
      ∀ prepared,
        ((prepareOn method lookup annotations.reset sink).runFrom record).1 = .ok prepared →
        ∀ stages again after,
          ((runStages method lookup again stages prepared.annotations).runFrom after).1 =
            .ok (List.replicate (stages.count .widths) prepared.newInstances,
              prepared.annotations) := by
  have hreset : annotations.reset = .blank method.code.length := by
    rw [Annotations.reset, hsize]
  rw [hreset, outcome_prepareOn, outcome_prepare]
  refine ⟨rfl, ?_⟩
  intro prepared hprepared stages again after
  simp only [bind_eq_ok_iff] at hprepared
  obtain ⟨result, hscan, marked, htries, hresult⟩ := hprepared
  obtain rfl := Except.ok.inj hresult
  have habsorbing := absorbing_triesOutcome method
  apply runStages_of_fixed
  · exact scan_again hscan (habsorbing.adds htries)
  · exact habsorbing.again htries (.refl marked)

/-- The annotations hold what another method left in them, spare bits
included. -/
theorem prepareOn_reset_guardedAllocation :
    (⟨#[0x30007, 0xffffffff, 5]⟩ : Annotations).size = guardedAllocation.code.length ∧
      ((prepareOn guardedAllocation dalvikWidth
          (Annotations.reset ⟨#[0x30007, 0xffffffff, 5]⟩) .recorder).runFrom []).1 =
        .ok ⟨⟨#[0x10002, 0, 0x20001]⟩, 1⟩ ∧
      ((runStages guardedAllocation dalvikWidth .recorder [.tries, .widths, .tries, .tries, .widths]
          ⟨#[0x10002, 0, 0x20001]⟩).runFrom []).1 = .ok ([1, 1], ⟨#[0x10002, 0, 0x20001]⟩) := by
  have hsize : (⟨#[0x30007, 0xffffffff, 5]⟩ : Annotations).size = guardedAllocation.code.length :=
    rfl
  obtain ⟨hsame, hagain⟩ := prepareOn_reset hsize dalvikWidth .recorder .recorder [] []
  rw [prepare_guardedAllocation] at hsame
  exact ⟨hsize, hsame, hagain _ hsame _ _ _⟩

end Prepass

end DalvikPrepass
