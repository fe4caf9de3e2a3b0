import Mathlib
import DalvikPrepass.Proofs.PassOutcome

/-!
# Reports of rejections

A pass rejects a method in many places, some of them inside loops over the code,
the try ranges and the handlers.  Whichever is reached, the pass leaves log lines
of its own on record and one report behind them.  How it ends depends neither on
the sink, nor on the record, nor on who is named in the report.
-/

namespace DalvikPrepass

namespace MethodCode

variable (method : MethodCode) (id : Option MethodId)

/-- The method under another name. -/
def named : MethodCode :=
  { method with method := id }

@[simp]
theorem named_method : (method.named id).method = id := rfl

@[simp]
theorem named_code : (method.named id).code = method.code := rfl

@[simp]
theorem named_tries : (method.named id).tries = method.tries := rfl

end MethodCode

namespace Record

theorem rejections_append (left right : Record) :
    rejections (left ++ right) = rejections left ++ rejections right :=
  List.filterMap_append

theorem rejections_lines (lines : List LogLine) : rejections (lines.map .line) = [] := by
  rw [rejections, List.filterMap_eq_nil_iff]
  simp

end Record

namespace Pass

variable {α β : Type} {build : Build}

/-! ## What passes add to the record -/

/-- What the sink makes of the end of a pass. -/
def reported (sink : Sink) (id : Option MethodId) : Except Halt α → Record
  | .error (.rejected defect) => sink.rejection id defect
  | _ => []

/-- The pass over a method of any name always ends in the same way, whatever the
sink and the record are.  What it adds are lines that do not depend on them
either, and then what the sink makes of a rejection. -/
def Reports (build : Build) (pass : Option MethodId → Sink → Pass α) : Prop :=
  ∃ outcome, ∀ id, ∃ lines : List LogLine, ∀ sink record,
    (pass id sink).runIn build record =
      (outcome, record ++ lines.map .line ++ reported sink id outcome)

theorem reported_ok (sink : Sink) (id : Option MethodId) (value : α) :
    reported sink id (.ok value) = [] := rfl

namespace Reports

variable {pass other : Option MethodId → Sink → Pass α}

/-- Only runs in this build count. -/
theorem of_runIn (hreports : Reports build other)
    (hrun : ∀ id sink record, (pass id sink).runIn build record =
      (other id sink).runIn build record) : Reports build pass := by
  obtain ⟨outcome, hreports⟩ := hreports
  refine ⟨outcome, fun id => ?_⟩
  obtain ⟨lines, hlines⟩ := hreports id
  exact ⟨lines, fun sink record => (hrun id sink record).trans (hlines sink record)⟩

theorem of_eq (hreports : Reports build other)
    (hequal : ∀ id sink, pass id sink = other id sink) : Reports build pass :=
  hreports.of_runIn fun id sink record => by rw [hequal id sink]

theorem pure (value : α) : Reports build fun _ _ => pure value := by
  refine ⟨.ok value, fun id => ⟨[], fun sink record => ?_⟩⟩
  rw [runIn_pure, reported_ok, List.map_nil, List.append_nil, List.append_nil]

theorem log (level : LogLevel) (origin : LogOrigin) (text : String) :
    Reports build fun _ _ => Pass.log level origin text := by
  refine ⟨.ok (), fun id => ⟨[⟨level, origin, text⟩], fun sink record => ?_⟩⟩
  rw [runIn_log, reported_ok, List.append_nil, List.map_singleton]

theorem fault (fault : Fault) :
    Reports build fun _ _ => (throw (.fault fault) : Pass α) := by
  refine ⟨.error (.fault fault), fun id => ⟨[], fun sink record => ?_⟩⟩
  rw [runIn_throw, reported, List.map_nil, List.append_nil, List.append_nil]
  simp

/-- A rejection is reported before the pass ends with it. -/
theorem reject (defect : Defect) :
    Reports build fun id sink => (Pass.reject sink id defect : Pass α) := by
  refine ⟨.error (.rejected defect), fun id => ⟨[], fun sink record => ?_⟩⟩
  rw [runIn_reject, List.map_nil, List.append_nil]
  rfl

/-- Only the last of two passes that run can have rejected. -/
theorem bind {next : Option MethodId → Sink → α → Pass β} (hpass : Reports build pass)
    (hnext : ∀ value, Reports build fun id sink => next id sink value) :
    Reports build fun id sink => pass id sink >>= next id sink := by
  obtain ⟨outcome, hpass⟩ := hpass
  cases outcome with
  | error halt =>
      refine ⟨.error halt, fun id => ?_⟩
      obtain ⟨lines, hlines⟩ := hpass id
      refine ⟨lines, fun sink record => ?_⟩
      rw [runIn_bind, hlines]
      cases halt <;> rfl
  | ok value =>
      obtain ⟨outcome, hnext⟩ := hnext value
      refine ⟨outcome, fun id => ?_⟩
      obtain ⟨lines, hlines⟩ := hpass id
      obtain ⟨more, hmore⟩ := hnext id
      refine ⟨lines ++ more, fun sink record => ?_⟩
      rw [runIn_bind, hlines]
      simp only [hmore, reported_ok, List.append_nil, List.map_append, List.append_assoc]

/-- A choice that is made in the same way for every sink and every name.  The
instance may mention them. -/
theorem ite {condition : Prop} {decide : Option MethodId → Sink → Decidable condition}
    (hthen : Reports build pass) (helse : Reports build other) :
    Reports build fun id sink =>
      haveI := decide id sink
      if condition then pass id sink else other id sink := by
  by_cases hcondition : condition
  · exact hthen.of_eq fun _ _ => if_pos hcondition
  · exact helse.of_eq fun _ _ => if_neg hcondition

theorem orFault (result : Except Fault α) : Reports build fun _ _ => Pass.orFault result := by
  cases result with
  | ok value => exact pure value
  | error fault => exact Reports.fault fault

theorem debugAssert (condition : Bool) (fault : Fault) :
    Reports build fun _ _ => Pass.debugAssert condition fault := by
  cases condition with
  | true => exact (pure ()).of_runIn fun _ _ record => debugAssert_true fault record
  | false =>
      cases build with
      | debug => exact (Reports.fault fault).of_runIn fun _ _ _ => rfl
      | release => exact (pure ()).of_runIn fun _ _ _ => rfl

end Reports

/-- A pass that rejects reports that once, and one that succeeds reports
nothing.  The sink has no influence on how it ends, and neither does the name of
the method. -/
structure ReportsOnce (build : Build) (pass : Option MethodId → Sink → Pass α) : Prop where
  outcome : ∃ outcome, ∀ id sink record, ((pass id sink).runIn build record).1 = outcome
  ok : ∀ {id record value after}, (pass id .recorder).runIn build record = (.ok value, after) →
    after.rejections = record.rejections
  rejected : ∀ {id record defect after},
    (pass id .recorder).runIn build record = (.error (.rejected defect), after) →
    after.rejections = record.rejections ++ [(id, defect)]
  /-- Apart from lines of its own the pass only adds what the sink makes of the
  one report, whatever sink that is. -/
  added : ∀ id, ∃ lines : List LogLine, ∀ sink record,
    ((pass id sink).runIn build record).2 = record ++ lines.map .line ++
      match ((pass id sink).runIn build record).1 with
      | .error (.rejected defect) => sink.rejection id defect
      | _ => []

theorem Reports.once {pass : Option MethodId → Sink → Pass α} (hreports : Reports build pass) :
    ReportsOnce build pass where
  outcome := by
    obtain ⟨outcome, hreports⟩ := hreports
    refine ⟨outcome, fun id sink record => ?_⟩
    obtain ⟨lines, hlines⟩ := hreports id
    rw [hlines]
  ok := by
    obtain ⟨outcome, hreports⟩ := hreports
    intro id record value after hrun
    obtain ⟨lines, hlines⟩ := hreports id
    rw [hlines] at hrun
    obtain ⟨rfl, rfl⟩ := Prod.mk.inj hrun
    rw [reported_ok, List.append_nil, Record.rejections_append, Record.rejections_lines,
      List.append_nil]
  rejected := by
    obtain ⟨outcome, hreports⟩ := hreports
    intro id record defect after hrun
    obtain ⟨lines, hlines⟩ := hreports id
    rw [hlines] at hrun
    obtain ⟨rfl, rfl⟩ := Prod.mk.inj hrun
    rw [Record.rejections_append, Record.rejections_append, Record.rejections_lines,
      List.append_nil]
    rfl
  added := by
    obtain ⟨outcome, hreports⟩ := hreports
    intro id
    obtain ⟨lines, hlines⟩ := hreports id
    refine ⟨lines, fun sink record => ?_⟩
    rw [hlines]
    rfl

end Pass

namespace Prepass

variable {build : Build}

/-! ## The widths -/

/-- The loop over the code, which rejects at the instruction it has come to. -/
theorem reports_recordFrom (method : MethodCode) (lookup : WidthLookup) (address : Nat)
    (rest : List CodeUnit) (annotations : Annotations) (newInstances : Nat) :
    Pass.Reports build fun id sink =>
      recordFrom (method.named id) lookup sink address rest annotations newInstances := by
  induction address, rest, annotations, newInstances using recordFrom.induct lookup with
  | case1 address annotations newInstances =>
      refine (Pass.Reports.pure (address, ⟨annotations, newInstances⟩)).of_eq fun id sink => ?_
      rw [recordFrom]
  | case2 address annotations newInstances unit units width hzero =>
      refine (Pass.Reports.reject (.invalidInstruction address unit)).of_eq fun id sink => ?_
      rw [recordFrom, dif_pos hzero]
      rfl
  | case3 address annotations newInstances unit units width hzero hwide =>
      refine (Pass.Reports.reject (.insaneWidth address width)).of_eq fun id sink => ?_
      rw [recordFrom, dif_neg hzero, if_pos hwide]
      rfl
  | case4 address annotations newInstances unit units width hzero hwide ih =>
      have hset : Pass.Reports build fun _ _ =>
          Pass.orFault (annotations.setWidth address (UInt16.ofNat width)) := .orFault _
      refine (hset.bind ih).of_eq fun id sink => ?_
      rw [recordFrom, dif_neg hzero, if_neg hwide]

theorem reports_recordWidths (method : MethodCode) (lookup : WidthLookup)
    (annotations : Annotations) :
    Pass.Reports build fun id sink =>
      recordWidths (method.named id) lookup annotations sink := by
  simp only [recordWidths, MethodCode.named_code, MethodCode.named_method]
  refine .ite (.fault _) ?_
  refine .bind (reports_recordFrom method lookup 0 method.code annotations 0) fun found => ?_
  refine .ite (.reject (.cutInstruction _ _)) ?_
  exact .bind (.log .trace .widths _) fun _ => .pure found.2

/-! ## Try ranges -/

/-- A range can be rejected in three places. -/
theorem reports_checkRange (method : MethodCode) (item : TryItem) (annotations : Annotations) :
    Pass.Reports build fun id sink => checkRange (method.named id) sink item annotations := by
  simp only [checkRange, MethodCode.named_code, MethodCode.named_method]
  refine .ite (.reject (.emptyRange _ _ _)) ?_
  refine .ite (.reject (.rangeOutOfBounds _ _ _)) ?_
  exact .ite (.pure ()) (.reject (.misalignedStart _))

/-- The loop over the instructions in a range, which rejects nothing by itself. -/
theorem reports_coverRange (stop address : Nat) (annotations : Annotations) :
    Pass.Reports build fun _ _ => coverRange stop address annotations := by
  induction address, annotations using coverRange.induct stop with
  | case1 address annotations hbefore width ih =>
      -- A release build that comes to a gap ends the walk; a debug build has ended before.
      by_cases hzero : width = 0
      · refine (Pass.Reports.bind (.debugAssert (width != 0) (.gapInTry address))
          fun _ => .pure annotations).of_eq fun _ _ => ?_
        rw [coverRange, dif_pos hbefore]
        dsimp only
        rw [dif_pos hzero]
      · refine (Pass.Reports.bind (.debugAssert (width != 0) (.gapInTry address)) fun _ =>
          .bind (.orFault (annotations.setMark .inTry address true)) (ih hzero)).of_eq
            fun _ _ => ?_
        rw [coverRange, dif_pos hbefore]
        dsimp only
        rw [dif_neg hzero]
  | case2 address annotations hbeyond =>
      refine (Pass.Reports.pure annotations).of_eq fun _ _ => ?_
      rw [coverRange, dif_neg hbeyond]

/-- The loop over the ranges, which ends at the first that is rejected. -/
theorem reports_coverRanges (method : MethodCode) (items : List TryItem)
    (annotations : Annotations) :
    Pass.Reports build fun id sink => coverRanges (method.named id) sink items annotations := by
  induction items generalizing annotations with
  | nil => exact .pure annotations
  | cons item items ih =>
      refine .bind (reports_checkRange method item annotations) fun _ => ?_
      exact .bind (reports_coverRange item.stop item.start.toNat annotations) ih

/-! ## Handlers -/

/-- Each value of the handler list can be the one that cannot be read. -/
theorem reports_orMalformed {α : Type} (method : MethodCode) (result : Except ReadError α) :
    Pass.Reports build fun id sink => orMalformed (method.named id) sink result := by
  cases result with
  | ok value => exact .pure value
  | error cause => exact .reject (.malformedHandlers cause)

/-- The loop over a group, which may have marked targets before it rejects. -/
theorem reports_targetGroup (method : MethodCode) (reader : GroupReader)
    (annotations : Annotations) :
    Pass.Reports build fun id sink => targetGroup (method.named id) sink reader annotations := by
  induction reader, annotations using targetGroup.induct with
  | case1 reader annotations after hnext =>
      refine (Pass.Reports.pure (after.position, annotations)).of_eq fun id sink => ?_
      exact targetGroup_of_next_none hnext annotations
  | case2 reader annotations item after hnext ih =>
      refine (Pass.Reports.bind (reports_orMalformed method item) ?_).of_eq fun id sink =>
        targetGroup_of_next_some hnext annotations
      intro handler
      exact .ite (.bind (.orFault _) ih) (.reject (.badHandlerTarget _))

/-- The loop over the groups. -/
theorem reports_targetGroups (method : MethodCode) (count offset : Nat)
    (annotations : Annotations) :
    Pass.Reports build fun id sink =>
      targetGroups (method.named id) sink count offset annotations := by
  induction count generalizing offset annotations with
  | zero => exact .pure annotations
  | succ count ih =>
      refine .bind (reports_orMalformed method (HandlerList.groupAt method.handlers offset))
        fun reader => ?_
      -- The next group starts where this one ends, on the annotations that it has left.
      exact .bind (reports_targetGroup method reader annotations) fun result =>
        ih result.1 result.2

theorem reports_targetHandlers (method : MethodCode) (annotations : Annotations) :
    Pass.Reports build fun id sink => targetHandlers (method.named id) sink annotations := by
  refine .bind (reports_orMalformed method (HandlerList.size method.handlers)) fun count => ?_
  refine .bind (reports_orMalformed method (HandlerList.firstOffset method.handlers))
    fun offset => ?_
  exact .bind (reports_targetGroups method count.toNat offset annotations) fun marked =>
    .pure (count.toNat, marked)

/-! ## Whole passes -/

theorem reports_markTries (method : MethodCode) (annotations : Annotations) :
    Pass.Reports build fun id sink => markTries (method.named id) annotations sink := by
  simp only [markTries, MethodCode.named_code, MethodCode.named_tries]
  refine .ite (.pure annotations) ?_
  refine .ite (.fault _) ?_
  refine .bind (reports_coverRanges method method.tries annotations) fun covered => ?_
  refine .bind (reports_targetHandlers method covered) fun result => ?_
  exact .bind (.log .trace .tryTable _) fun _ => .pure result.2

/-- The line about a method that passed, which needs a name. -/
theorem reports_prepared (method : MethodCode) (prepared : Prepared) :
    Pass.Reports build (fun id _ => do
      if let some id := id then
        Pass.log .debug .prepare
          ("prepared " ++ id.shown ++ ": " ++ toString method.code.length ++ " code units")
      return prepared) := by
  refine ⟨.ok prepared, fun id => ?_⟩
  cases id with
  | none =>
      refine ⟨[], fun sink record => ?_⟩
      rw [Pass.reported_ok, List.map_nil, List.append_nil, List.append_nil]
      rfl
  | some id =>
      refine ⟨[⟨.debug, .prepare, "prepared " ++ id.shown ++ ": " ++
        toString method.code.length ++ " code units"⟩], fun sink record => ?_⟩
      rw [Pass.reported_ok, List.append_nil, List.map_singleton]
      rfl

theorem reports_prepare (method : MethodCode) (lookup : WidthLookup) :
    Pass.Reports build fun id sink => prepare (method.named id) lookup sink := by
  refine .bind (reports_recordWidths method lookup (.blank method.code.length)) fun result => ?_
  exact .bind (reports_markTries method result.annotations) fun annotations =>
    reports_prepared method ⟨annotations, result.newInstances⟩

/-- Each pass over a method, and both in turn, report every rejection once and
nothing else.  Which sink they report to and who the method is makes no
difference to how they end. -/
theorem passes_report_once (build : Build) (method : MethodCode) (lookup : WidthLookup)
    (annotations : Annotations) :
    Pass.ReportsOnce build
        (fun id sink => recordWidths (method.named id) lookup annotations sink) ∧
      Pass.ReportsOnce build (fun id sink => markTries (method.named id) annotations sink) ∧
      Pass.ReportsOnce build (fun id sink => prepare (method.named id) lookup sink) :=
  ⟨(reports_recordWidths method lookup annotations).once,
    (reports_markTries method annotations).once, (reports_prepare method lookup).once⟩

/-- The first handler of the group is good and the second cannot be read. -/
example :
    ((prepare ⟨[0x000e], [⟨0, 1, 1⟩], [1, 2, 3, 0, 0x80], none⟩ dalvikWidth
        .recorder).runFrom []).2.rejections =
      [(none, .malformedHandlers (.invalidLeb128 4))] := by
  cbv

end Prepass

end DalvikPrepass
