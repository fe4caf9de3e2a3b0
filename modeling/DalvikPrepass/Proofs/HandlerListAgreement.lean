import Mathlib
import DalvikPrepass.Proofs.BuilderRoundTrip
import DalvikPrepass.Proofs.InstructionChain
import DalvikPrepass.Proofs.PassOutcome
import DalvikPrepass.Proofs.TryMarks

/-!
# Handler lists that the pre-pass can read

The parser finds the end of a handler list in the whole rest of the data, and
the pre-pass reads the list again after it has been cut out there.  Both see the
same groups, so a parsed item is never rejected for a handler list that cannot
be read, and neither is a built one.
-/

namespace DalvikPrepass

/-- Items that the parser returns or that a builder makes. -/
inductive CodeItem.Sourced : CodeItem → Prop
  | parsed {data : Bytes} {offset : Nat} {item : CodeItem}
      (hparse : CodeItem.parse data offset = .ok item) : Sourced item
  | built {builder : CodeItemBuilder} {given : List (List Handler × Nat)}
      (hbuilt : builder.Built given) (hcountable : builder.Countable) : Sourced builder.build

/-- Wherever an item comes from, its handler list can be read to the end. -/
theorem CodeItem.Sourced.wholeHandlers {item : CodeItem} (hsourced : item.Sourced) :
    item.WholeHandlers := by
  cases hsourced with
  | parsed hparse => exact CodeItem.wholeHandlers_of_parse hparse
  | built hbuilt hcountable => exact CodeItemBuilder.wholeHandlers_build hbuilt hcountable

namespace HandlerList

/-- A list that fills the data is walked from its first group to the last
byte. -/
theorem walkFrom_firstOffset {handlers : Bytes} {groups : List (List Handler)}
    (hencodes : Encodes handlers groups) :
    ∃ count first, size handlers = .ok count ∧ firstOffset handlers = .ok first ∧
      (walkFrom count.toNat (.ofOffset handlers first)).ending = .ok handlers.length := by
  obtain ⟨count, first, hcount, -, hfirst, -, hending⟩ := walkFrom_of_size hencodes
  exact ⟨count, first, hcount, hfirst, hending⟩

end HandlerList

namespace Prepass

/-- The outcome is not that the handler list cannot be read. -/
def NotMalformed {α : Type} (outcome : Except Halt α) : Prop :=
  ∀ cause, outcome ≠ .error (.rejected (.malformedHandlers cause))

namespace NotMalformed

variable {α β : Type}

theorem ok (value : α) : NotMalformed (.ok value) := by
  intro cause hcause
  cases hcause

theorem fault (fault : Fault) : NotMalformed (.error (.fault fault) : Except Halt α) := by
  intro cause hcause
  cases hcause

theorem of_error {halt : Halt} (hhalt : NotMalformed (.error halt : Except Halt α)) :
    NotMalformed (.error halt : Except Halt β) := by
  intro cause hcause
  obtain rfl := Except.error.inj hcause
  exact hhalt cause rfl

/-- Of two passes in turn it is enough to know each. -/
theorem bind {build : Build} {first : Pass α} {next : α → Pass β} {record : Record}
    (hfirst : NotMalformed (first.runIn build record).1)
    (hnext : ∀ value record, NotMalformed ((next value).runIn build record).1) :
    NotMalformed ((first >>= next).runIn build record).1 := by
  rw [Pass.runIn_bind]
  generalize first.runIn build record = run at hfirst
  obtain ⟨result, after⟩ := run
  cases result with
  | ok value => exact hnext value after
  | error halt => exact of_error hfirst

theorem map {outcome : Except Halt α} (houtcome : NotMalformed outcome) (change : α → β) :
    NotMalformed (outcome.map change) := by
  cases outcome with
  | ok value => exact ok (change value)
  | error halt => exact of_error houtcome

end NotMalformed

/-! ## Passes that do not read the handler list -/

section Passes

variable {build : Build}

/-- The scan never looks at the handler list. -/
theorem notMalformed_recordWidths (method : MethodCode) (lookup : WidthLookup)
    (annotations : Annotations) (sink : Sink) (record : Record) :
    NotMalformed ((recordWidths method lookup annotations sink).runIn build record).1 := by
  rw [outcome_recordWidths]
  by_cases hsize : annotations.size = method.code.length
  · obtain ⟨extents, stop, -, hends⟩ := scan_ends lookup hsize
    generalize scan lookup method.code annotations = outcome at hends
    intro cause hcause
    subst hcause
    cases hends
  · rw [scan, if_pos hsize]
    exact .fault _

theorem notMalformed_orFault {α : Type} (result : Except Fault α) (record : Record) :
    NotMalformed ((Pass.orFault result).runIn build record).1 := by
  cases result with
  | ok value => exact .ok value
  | error fault => exact .fault fault

theorem notMalformed_debugAssert (condition : Bool) (fault : Fault) (record : Record) :
    NotMalformed ((Pass.debugAssert condition fault).runIn build record).1 := by
  cases condition with
  | true =>
      rw [Pass.debugAssert_true]
      exact .ok ()
  | false =>
      cases build with
      | debug => exact .fault fault
      | release => exact .ok ()

theorem notMalformed_coverRange (stop address : Nat) (annotations : Annotations)
    (record : Record) :
    NotMalformed ((coverRange stop address annotations).runIn build record).1 := by
  fun_induction coverRange stop address annotations generalizing record with
  | case1 address annotations hbefore width ih =>
      apply NotMalformed.bind (notMalformed_debugAssert _ _ record)
      intro _ record
      split
      · exact .ok _
      · rename_i hzero
        apply NotMalformed.bind (notMalformed_orFault _ record)
        intro updated record
        exact ih hzero updated record
  | case2 => exact .ok _

theorem notMalformed_checkRange (method : MethodCode) (sink : Sink) (item : TryItem)
    (annotations : Annotations) (record : Record) :
    NotMalformed ((checkRange method sink item annotations).runIn build record).1 := by
  rw [checkRange]
  intro cause
  repeat' split
  all_goals simp

/-- The walk over the try ranges does not look at the handler list either. -/
theorem notMalformed_coverRanges (method : MethodCode) (sink : Sink) (items : List TryItem)
    (annotations : Annotations) (record : Record) :
    NotMalformed ((coverRanges method sink items annotations).runIn build record).1 := by
  induction items generalizing annotations record with
  | nil => exact .ok annotations
  | cons item items ih =>
      apply NotMalformed.bind (notMalformed_checkRange method sink item annotations record)
      intro _ record
      apply NotMalformed.bind (notMalformed_coverRange _ _ annotations record)
      exact ih

end Passes

/-! ## Whole lists -/

theorem notMalformed_markTargets (handlers : List Handler) (annotations : Annotations) :
    NotMalformed (markTargets handlers annotations) := by
  cases hfind : handlers.find? fun handler => !annotations.isStart handler.address.toNat with
  | none =>
      obtain ⟨marked, hrun, -⟩ := markTargets_of_none hfind
      rw [hrun]
      exact .ok marked
  | some handler =>
      rw [markTargets_of_some hfind]
      intro cause hcause
      cases hcause

/-- A list that is written as the grammar says is only rejected for its targets. -/
theorem notMalformed_markHandlers {handlers : Bytes} {groups : List (List Handler)}
    (hencodes : HandlerList.Encodes handlers groups) (annotations : Annotations) :
    NotMalformed (markHandlers handlers annotations) := by
  have hholds : HandlerList.Holds handlers groups :=
    .inr ⟨handlers, List.prefix_refl handlers, hencodes⟩
  rw [markHandlers_of_holds hholds]
  exact (notMalformed_markTargets groups.flatten annotations).map _

/-- Where there are try ranges the grammar has to hold of the list. -/
theorem notMalformed_markTries {method : MethodCode}
    (hwhole : method.tries ≠ [] → ∃ groups, HandlerList.Encodes method.handlers groups)
    (annotations : Annotations) (sink : Sink) (build : Build) (record : Record) :
    NotMalformed ((markTries method annotations sink).runIn build record).1 := by
  rw [markTries]
  split
  · exact .ok annotations
  · rename_i htries
    obtain ⟨groups, hgroups⟩ := hwhole (List.isEmpty_iff.not.mp htries)
    dsimp only
    split
    · exact .fault _
    · apply NotMalformed.bind (notMalformed_coverRanges _ _ _ _ _)
      intro covered record
      apply NotMalformed.bind
      · rw [outcome_targetHandlers]
        exact notMalformed_markHandlers hgroups covered
      · intro result record
        exact .ok _

/-- On an item that was parsed or built neither pass ever finds a handler list
that cannot be read, whatever the annotations hold and however the program has
been built.  Where there are try ranges the groups lie back to back and fill the
list. -/
theorem handlers_readable {item : CodeItem} (hsourced : item.Sourced) (id : Option MethodId)
    (lookup : WidthLookup) (annotations : Annotations) (sink : Sink) (build : Build)
    (record : Record) :
    NotMalformed ((markTries (.ofCodeItem item id) annotations sink).runIn build record).1 ∧
      NotMalformed ((prepare (.ofCodeItem item id) lookup sink).runIn build record).1 ∧
      (item.tries ≠ [] →
        NotMalformed ((targetHandlers (.ofCodeItem item id) sink annotations).runIn build record).1 ∧
        ∃ count first, HandlerList.size item.handlers = .ok count ∧
          HandlerList.firstOffset item.handlers = .ok first ∧
          (HandlerList.walkFrom count.toNat (.ofOffset item.handlers first)).ending =
            .ok item.handlers.length) := by
  have hwhole := hsourced.wholeHandlers.encodes
  refine ⟨?_, ?_, ?_⟩
  · exact notMalformed_markTries hwhole annotations sink build record
  · apply NotMalformed.bind (notMalformed_recordWidths _ _ _ _ _)
    intro result record
    apply NotMalformed.bind (notMalformed_markTries hwhole result.annotations sink build record)
    intro marked record
    cases id with
    | none => exact .ok _
    | some id => exact .ok _
  · intro htries
    obtain ⟨groups, hgroups⟩ := hwhole htries
    rw [outcome_targetHandlers]
    exact ⟨notMalformed_markHandlers hgroups annotations,
      HandlerList.walkFrom_firstOffset hgroups⟩

theorem handlers_readable_guardedReturn :
    CodeItemBuilder.guardedReturn.build.Sourced ∧ CodeItemBuilder.guardedReturn.build.tries ≠ [] ∧
      ∃ count first, HandlerList.size CodeItemBuilder.guardedReturn.build.handlers = .ok count ∧
        HandlerList.firstOffset CodeItemBuilder.guardedReturn.build.handlers = .ok first ∧
        (HandlerList.walkFrom count.toNat
          (.ofOffset CodeItemBuilder.guardedReturn.build.handlers first)).ending =
            .ok CodeItemBuilder.guardedReturn.build.handlers.length := by
  have hsourced : CodeItemBuilder.guardedReturn.build.Sourced :=
    .built CodeItemBuilder.built_guardedReturn CodeItemBuilder.fits_guardedReturn.toCountable
  have htries : CodeItemBuilder.guardedReturn.build.tries ≠ [] := by
    rw [CodeItemBuilder.tries_guardedReturn]
    exact List.cons_ne_nil _ _
  have hreadable := handlers_readable hsourced none dalvikWidth (.blank 1) .recorder .debug []
  exact ⟨hsourced, htries, (hreadable.2.2 htries).2⟩

end Prepass

end DalvikPrepass
