import Mathlib
import DalvikPrepass.Proofs.HandlerStream
import DalvikPrepass.Proofs.SpareBits

/-!
# The first defect of an exception table

Which verdict the table of a method deserves, said without running the pass: the
first range with a defect decides, then whichever comes first in the stream of
handlers, one that does not start on an instruction or a value that is not
there.  A table without any of these only adds marks.  The pass ends with this
verdict.
-/

namespace DalvikPrepass.Prepass

/-- What is wrong with a try range of a method of `length` code units. -/
inductive RangeFails (annotations : Annotations) (length : Nat) (item : TryItem) : Defect → Prop
  | empty (hcount : item.count = 0) :
      RangeFails annotations length item (.emptyRange item.start.toNat item.stop length)
  | outOfBounds (hcount : item.count ≠ 0) (hstop : length < item.stop) :
      RangeFails annotations length item (.rangeOutOfBounds item.start.toNat item.stop length)
  | misaligned (hcount : item.count ≠ 0) (hstop : item.stop ≤ length)
      (hwidth : annotations.width item.start.toNat = 0) :
      RangeFails annotations length item (.misalignedStart item.start.toNat)

/-- Nothing is wrong with any of the ranges. -/
def RangesPass (annotations : Annotations) (length : Nat) (items : List TryItem) : Prop :=
  ∀ item ∈ items, ∀ defect, ¬RangeFails annotations length item defect

/-- An instruction starts at the address of each handler. -/
def HandlersStart (annotations : Annotations) (handlers : List Handler) : Prop :=
  ∀ handler ∈ handlers, annotations.width handler.address.toNat ≠ 0

/-- The instructions in the ranges and at the addresses of the handlers have
been marked, and nothing else has changed. -/
structure TableMarked (items : List TryItem) (handlers : List Handler)
    (before after : Annotations) : Prop where
  size : after.size = before.size
  width : after.width = before.width
  inTry : ∀ address, after.has .inTry address = true ↔
    before.has .inTry address = true ∨ before.width address ≠ 0 ∧ Covered items address
  branchTarget : ∀ address, after.has .branchTarget address = true ↔
    before.has .branchTarget address = true ∨ ∃ handler ∈ handlers, handler.address.toNat = address
  spare : after.spare = before.spare

/-- How the pass over the table should end. -/
inductive TableVerdict (method : MethodCode) (before : Annotations) :
    Except Halt Annotations → Prop
  | range {earlier later : List TryItem} {item : TryItem} {defect : Defect}
      (htries : method.tries = earlier ++ item :: later)
      (hearlier : RangesPass before method.code.length earlier)
      (hfails : RangeFails before method.code.length item defect) :
      TableVerdict method before (.error (.rejected defect))
  | badTarget {earlier later : List Handler} {handler : Handler} {stop : Except Nat Nat}
      (hranges : RangesPass before method.code.length method.tries)
      (hreads : HandlerList.ReadsAs method.handlers (earlier ++ handler :: later) stop)
      (hearlier : HandlersStart before earlier)
      (hwidth : before.width handler.address.toNat = 0) :
      TableVerdict method before (.error (.rejected (.badHandlerTarget handler.address.toNat)))
  | malformed {handlers : List Handler} {place : Nat}
      (hranges : RangesPass before method.code.length method.tries)
      (hreads : HandlerList.ReadsAs method.handlers handlers (.error place))
      (hstart : HandlersStart before handlers) :
      TableVerdict method before (.error (.rejected (.malformedHandlers (.invalidLeb128 place))))
  | passes {handlers : List Handler} {stop : Nat} {after : Annotations}
      (hranges : RangesPass before method.code.length method.tries)
      (hreads : HandlerList.ReadsAs method.handlers handlers (.ok stop))
      (hstart : HandlersStart before handlers)
      (hmarked : TableMarked method.tries handlers before after) :
      TableVerdict method before (.ok after)

/-! ## What is checked -/

section Checks

variable {annotations : Annotations}

/-- The check of a range as three separate conditions. -/
theorem rangeDefect_eq_some_iff {length : Nat} {item : TryItem} {defect : Defect} :
    rangeDefect annotations length item = some defect ↔
      RangeFails annotations length item defect := by
  -- The check compares the bounds, which do not wrap around.
  have hcount : item.stop ≤ item.start.toNat ↔ item.count = 0 := by
    rw [TryItem.stop, ← UInt32.toNat_inj, UInt32.toNat_zero]
    omega
  have hwidth : annotations.isStart item.start.toNat = true ↔
      annotations.width item.start.toNat ≠ 0 := bne_iff_ne
  simp only [rangeDefect, hcount, hwidth]
  constructor
  · intro hsome
    split at hsome
    · rename_i hempty
      obtain rfl := Option.some.inj hsome
      exact .empty hempty
    · rename_i hproper
      split at hsome
      · rename_i hbeyond
        obtain rfl := Option.some.inj hsome
        have hlt : item.start.toNat < item.stop := Nat.lt_of_not_le (hcount.not.mpr hproper)
        exact .outOfBounds hproper (by omega)
      · rename_i hinside
        split at hsome
        · simp at hsome
        · rename_i hmisaligned
          obtain rfl := Option.some.inj hsome
          exact .misaligned hproper (by omega) (not_not.mp hmisaligned)
  · intro hfails
    cases hfails with
    | empty hempty => rw [if_pos hempty]
    | outOfBounds hproper hstop => rw [if_neg hproper, if_pos (.inr hstop)]
    | misaligned hproper hstop hzero =>
        have hlt : item.start.toNat < item.stop := Nat.lt_of_not_le (hcount.not.mpr hproper)
        rw [if_neg hproper, if_neg (by omega), if_neg (not_not.mpr hzero)]

theorem rangesPass_iff {length : Nat} {items : List TryItem} :
    RangesPass annotations length items ↔
      ∀ item ∈ items, rangeDefect annotations length item = none := by
  simp only [RangesPass, ← rangeDefect_eq_some_iff, Option.eq_none_iff_forall_ne_some, ne_eq]

theorem find?_eq_none_iff_handlersStart {handlers : List Handler} :
    handlers.find? (fun handler => !annotations.isStart handler.address.toNat) = none ↔
      HandlersStart annotations handlers := by
  simp [HandlersStart, Annotations.isStart]

/-- Of two results with the same marks on top there is only one. -/
theorem TableMarked.unique {items : List TryItem} {handlers : List Handler}
    {after other : Annotations} (hafter : TableMarked items handlers annotations after)
    (hother : TableMarked items handlers annotations other) : after = other := by
  apply Annotations.eq_of_parts
  · exact hafter.size.trans hother.size.symm
  · exact hafter.width.trans hother.width.symm
  · funext mark address
    apply Bool.eq_iff_iff.mpr
    cases mark with
    | inTry => exact (hafter.inTry address).trans (hother.inTry address).symm
    | branchTarget => exact (hafter.branchTarget address).trans (hother.branchTarget address).symm
  · exact hafter.spare.trans hother.spare.symm

/-- The two kinds of marks together. -/
theorem tableMarked_of_marked {items : List TryItem} {handlers : List Handler}
    {middle after : Annotations}
    (hmiddle : Marked .inTry (fun address => annotations.isStart address = true ∧
      Covered items address) annotations middle)
    (hafter : Marked .branchTarget (fun address => ∃ handler ∈ handlers,
      handler.address.toNat = address) middle after)
    (hspare : after.spare = annotations.spare) : TableMarked items handlers annotations after where
  size := hafter.size.trans hmiddle.size
  width := hafter.width.trans hmiddle.width
  inTry address := by
    rw [hafter.others .inTry (by decide), hmiddle.has, Annotations.isStart, bne_iff_ne]
  branchTarget address := by
    rw [hafter.has, hmiddle.others .branchTarget (by decide)]
  spare := hspare

end Checks

/-- The handlers in front of the place where a value is missing are checked
first. -/
theorem markHandlers_of_readsAs {data : Bytes} {handlers : List Handler} {stop : Except Nat Nat}
    (hreads : HandlerList.ReadsAs data handlers stop) (annotations : Annotations) :
    (markHandlers data annotations).map Prod.snd = (do
      let marked ← markTargets handlers annotations
      match stop with
      | .error place => throw (.rejected (.malformedHandlers (.invalidLeb128 place)))
      | .ok _ => return marked) := by
  rcases HandlerList.walk_of_readsAs hreads with ⟨hwalk, rfl, rfl⟩ | ⟨found, hwalk, rfl, hending⟩
  · rw [markHandlers, hwalk]
    rfl
  · rw [markHandlers, hwalk]
    simp only [hending]
    cases markTargets found.handlers annotations <;> cases stop <;> rfl

/-! ## How the pass ends -/

section Outcome

variable {method : MethodCode} {annotations : Annotations} {handlers : List Handler}
  {stop : Except Nat Nat}
variable (htries : method.tries ≠ []) (hsize : annotations.size = method.code.length)
  (htiled : annotations.Tiled)

include htries hsize in
theorem triesOutcome_eq :
    triesOutcome method annotations = (do
      let marked ← markRanges annotations.size method.tries annotations
      (markHandlers method.handlers marked).map Prod.snd) := by
  rw [triesOutcome_of_ne_nil htries hsize, hsize]

include htries hsize htiled

/-- The first range that fails decides. -/
theorem triesOutcome_of_rangeFails {earlier later : List TryItem} {item : TryItem}
    {defect : Defect} (hitems : method.tries = earlier ++ item :: later)
    (hearlier : RangesPass annotations method.code.length earlier)
    (hfails : RangeFails annotations method.code.length item defect) :
    triesOutcome method annotations = .error (.rejected defect) := by
  have hfirst : method.tries.findSome? (rangeDefect annotations annotations.size) =
      some defect := by
    rw [hsize, List.findSome?_eq_some_iff]
    exact ⟨earlier, item, later, hitems, rangeDefect_eq_some_iff.mpr hfails,
      rangesPass_iff.mp hearlier⟩
  rw [triesOutcome_eq htries hsize, markRanges_of_some htiled hfirst]
  rfl

variable (hranges : RangesPass annotations method.code.length method.tries)
  (hreads : HandlerList.ReadsAs method.handlers handlers stop)

include hranges hreads

/-- Behind ranges that pass, the outcome is told by what the handler list reads
as. -/
theorem triesOutcome_of_rangesPass :
    ∃ middle,
      Marked .inTry (fun address => annotations.isStart address = true ∧
        Covered method.tries address) annotations middle ∧
      middle.spare = annotations.spare ∧
      triesOutcome method annotations = (do
        let marked ← markTargets handlers middle
        match stop with
        | .error place => throw (.rejected (.malformedHandlers (.invalidLeb128 place)))
        | .ok _ => return marked) := by
  have hnone : method.tries.findSome? (rangeDefect annotations annotations.size) = none := by
    rw [hsize, List.findSome?_eq_none_iff]
    exact rangesPass_iff.mp hranges
  obtain ⟨middle, hrun, hmiddle⟩ := markRanges_of_none htiled hnone
  refine ⟨middle, hmiddle, (keptByMarks_spare _).markRanges hrun rfl, ?_⟩
  rw [triesOutcome_eq htries hsize, hrun, ← markHandlers_of_readsAs hreads]
  rfl

omit hreads in
/-- Behind good ranges the first bad target decides, if it is read. -/
theorem triesOutcome_of_badTarget {earlier later : List Handler} {handler : Handler}
    (hreads : HandlerList.ReadsAs method.handlers (earlier ++ handler :: later) stop)
    (hearlier : HandlersStart annotations earlier)
    (hwidth : annotations.width handler.address.toNat = 0) :
    triesOutcome method annotations =
      .error (.rejected (.badHandlerTarget handler.address.toNat)) := by
  obtain ⟨middle, hmiddle, -, houtcome⟩ :=
    triesOutcome_of_rangesPass htries hsize htiled hranges hreads
  have hfirst : (earlier ++ handler :: later).find?
      (fun handler => !middle.isStart handler.address.toNat) = some handler := by
    rw [hmiddle.isStart, List.find?_append, find?_eq_none_iff_handlersStart.mpr hearlier,
      Option.none_or, List.find?_cons_of_pos]
    simp [Annotations.isStart, hwidth]
  rw [houtcome, markTargets_of_some hfirst]
  rfl

theorem triesOutcome_of_handlersStart (hstart : HandlersStart annotations handlers) :
    ∃ marked, TableMarked method.tries handlers annotations marked ∧
      triesOutcome method annotations =
        match stop with
        | .error place => .error (.rejected (.malformedHandlers (.invalidLeb128 place)))
        | .ok _ => .ok marked := by
  obtain ⟨middle, hmiddle, hspare, houtcome⟩ :=
    triesOutcome_of_rangesPass htries hsize htiled hranges hreads
  have hnone := find?_eq_none_iff_handlersStart.mpr hstart
  rw [← hmiddle.isStart] at hnone
  obtain ⟨marked, hrun, hmarked⟩ := markTargets_of_none hnone
  have hkept : marked.spare = annotations.spare :=
    (keptByMarks_spare _).markTargets hrun hspare
  refine ⟨marked, tableMarked_of_marked hmiddle hmarked hkept, ?_⟩
  rw [houtcome, hrun]
  cases stop <;> rfl

omit hranges hreads

/-- There is a verdict on every table. -/
theorem exists_tableVerdict : ∃ outcome, TableVerdict method annotations outcome := by
  cases hrange : method.tries.findSome? (rangeDefect annotations method.code.length) with
  | some defect =>
      obtain ⟨earlier, item, later, hitems, hdefect, hearlier⟩ :=
        List.findSome?_eq_some_iff.mp hrange
      exact ⟨_, .range hitems (rangesPass_iff.mpr hearlier) (rangeDefect_eq_some_iff.mp hdefect)⟩
  | none =>
      have hranges := rangesPass_iff.mpr (List.findSome?_eq_none_iff.mp hrange)
      obtain ⟨handlers, stop, hreads⟩ := HandlerList.exists_readsAs method.handlers
      cases htarget : handlers.find? fun handler =>
          !annotations.isStart handler.address.toNat with
      | some handler =>
          obtain ⟨hbad, earlier, later, rfl, hearlier⟩ :=
            List.find?_eq_some_iff_append.mp htarget
          refine ⟨_, .badTarget hranges hreads ?_ ?_⟩
          · simpa [HandlersStart, Annotations.isStart] using hearlier
          · simpa [Annotations.isStart] using hbad
      | none =>
          have hstart := find?_eq_none_iff_handlersStart.mp htarget
          cases stop with
          | error place => exact ⟨_, .malformed hranges hreads hstart⟩
          | ok stop =>
              obtain ⟨marked, hmarked, -⟩ :=
                triesOutcome_of_handlersStart htries hsize htiled hranges hreads hstart
              exact ⟨_, .passes hranges hreads hstart hmarked⟩

/-- The pass ends as the verdict says. -/
theorem triesOutcome_of_tableVerdict {outcome : Except Halt Annotations}
    (hverdict : TableVerdict method annotations outcome) :
    triesOutcome method annotations = outcome := by
  cases hverdict with
  | range hitems hearlier hfails =>
      exact triesOutcome_of_rangeFails htries hsize htiled hitems hearlier hfails
  | badTarget hranges hreads hearlier hwidth =>
      exact triesOutcome_of_badTarget htries hsize htiled hranges hreads hearlier hwidth
  | malformed hranges hreads hstart =>
      obtain ⟨_, _, houtcome⟩ :=
        triesOutcome_of_handlersStart htries hsize htiled hranges hreads hstart
      exact houtcome
  | passes hranges hreads hstart hmarked =>
      obtain ⟨marked, hfound, houtcome⟩ :=
        triesOutcome_of_handlersStart htries hsize htiled hranges hreads hstart
      rw [hmarked.unique hfound]
      exact houtcome

end Outcome

/-- On annotations that hold the widths of a method's instructions, whatever
else is in them, the pass over its table ends with the one verdict that the
table deserves. -/
theorem markTries_eq_iff_tableVerdict {method : MethodCode} {annotations : Annotations}
    (htries : method.tries ≠ []) (hsize : annotations.size = method.code.length)
    (htiled : annotations.Tiled) (sink : Sink) (record : Record)
    (outcome : Except Halt Annotations) :
    ((markTries method annotations sink).runFrom record).1 = outcome ↔
      TableVerdict method annotations outcome := by
  rw [outcome_markTries]
  constructor
  · rintro rfl
    obtain ⟨verdict, hverdict⟩ := exists_tableVerdict htries hsize htiled
    rwa [triesOutcome_of_tableVerdict htries hsize htiled hverdict]
  · exact triesOutcome_of_tableVerdict htries hsize htiled

/-- Of two groups the first has a handler inside the allocation, and the second
cannot be read. -/
def strayHandler : MethodCode :=
  ⟨[0x0022, 0x0000, 0x000e], [⟨0, 1, 1⟩], [2, 0, 1, 0x80], none⟩

theorem markTries_strayHandler :
    strayHandler.tries ≠ [] ∧
      (⟨#[0x40002, 0x30000, 1]⟩ : Annotations).size = strayHandler.code.length ∧
      (⟨#[0x40002, 0x30000, 1]⟩ : Annotations).Tiled ∧
      ((markTries strayHandler ⟨#[0x40002, 0x30000, 1]⟩ .recorder).runFrom []).1 =
        .error (.rejected (.badHandlerTarget 1)) := by
  have htries : strayHandler.tries ≠ [] := by decide
  have hsize : (⟨#[0x40002, 0x30000, 1]⟩ : Annotations).size = strayHandler.code.length := rfl
  have htiled : (⟨#[0x40002, 0x30000, 1]⟩ : Annotations).Tiled := by
    have hstarts : (⟨#[0x40002, 0x30000, 1]⟩ : Annotations).starts = [(0, 2), (2, 1)] := by decide
    rw [Annotations.Tiled, hstarts]
    exact .cons (by decide) (by decide) (.cons (by decide) (by decide) .nil)
  have hranges : RangesPass ⟨#[0x40002, 0x30000, 1]⟩ strayHandler.code.length
      strayHandler.tries := by
    rw [rangesPass_iff]
    decide
  have hlast : Leb128.NoValue [0x80] := (Leb128.decodeWith_eq_none_iff Leb128.digit).mp rfl
  have htarget : Handler.Encodes [1] ⟨none, 1⟩ := .catchAll ⟨.last (by decide), by decide⟩
  have hsigned : Leb128.EncodesSigned [0] 0 := ⟨.last (by decide), by decide⟩
  have hunsigned : Leb128.EncodesUnsigned [2] 2 := ⟨.last (by decide), by decide⟩
  have hgroups : HandlerList.ReadsFrom [] 2 1 ([0] ++ ([1] ++ [0x80])) [⟨none, 1⟩] (.error 3) :=
    .group hsigned (.handler htarget (.noCount hlast))
  have hreads : HandlerList.ReadsAs strayHandler.handlers ([] ++ ⟨none, 1⟩ :: []) (.error 3) :=
    .list hunsigned hgroups
  refine ⟨htries, hsize, htiled, ?_⟩
  apply (markTries_eq_iff_tableVerdict htries hsize htiled .recorder [] _).mpr
  exact .badTarget hranges hreads (by simp [HandlersStart]) (by decide)

end DalvikPrepass.Prepass
