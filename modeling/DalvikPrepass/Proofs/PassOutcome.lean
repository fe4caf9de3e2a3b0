import Mathlib
import DalvikPrepass.Proofs.HandlerGrammar
import DalvikPrepass.Proofs.PlainChecks

/-!
# Outcomes of passes

A pass only adds to the record, and nothing it finds there changes what it
does.  So each pass over a method ends as a plain function of the method and the
annotations does.  The builds differ only in what they do about a gap in a try
range.
-/

namespace DalvikPrepass

namespace Pass

variable {α β : Type} {build : Build}

/-! ## Runs -/

@[simp]
theorem runIn_pure (value : α) (record : Record) :
    (pure value : Pass α).runIn build record = (.ok value, record) := rfl

@[simp]
theorem runIn_throw (halt : Halt) (record : Record) :
    (throw halt : Pass α).runIn build record = (.error halt, record) := rfl

/-- A pass goes on with the record that the one before it has left. -/
@[simp]
theorem runIn_bind (first : Pass α) (next : α → Pass β) (record : Record) :
    (first >>= next).runIn build record =
      match first.runIn build record with
      | (.ok value, after) => (next value).runIn build after
      | (.error halt, after) => (.error halt, after) := by
  change Id.run ((ExceptT.bindCont (fun value => (next value).run build)
    (first.runIn build record).1) (first.runIn build record).2) = _
  generalize first.runIn build record = outcome
  obtain ⟨result, after⟩ := outcome
  cases result with
  | ok value => rfl
  | error halt => rfl

@[simp]
theorem runIn_log (level : LogLevel) (origin : LogOrigin) (text : String) (record : Record) :
    (log level origin text).runIn build record =
      (.ok (), record ++ [.line ⟨level, origin, text⟩]) :=
  rfl

/-- A rejection is on record when the pass ends. -/
@[simp]
theorem runIn_reject (sink : Sink) (method : Option MethodId) (defect : Defect) (record : Record) :
    (reject sink method defect : Pass α).runIn build record =
      (.error (.rejected defect), record ++ sink.rejection method defect) :=
  rfl

theorem outcome_orFault_of_ok {result : Except Fault α} {value : α} (hresult : result = .ok value)
    (record : Record) : ((orFault result).runIn build record).1 = .ok value := by
  rw [hresult]
  rfl

theorem outcome_orFault_of_error {result : Except Fault α} {fault : Fault}
    (hresult : result = .error fault) (record : Record) :
    ((orFault result).runIn build record).1 = .error (.fault fault) := by
  rw [hresult]
  rfl

/-- An assertion that holds makes no difference. -/
@[simp]
theorem debugAssert_true (fault : Fault) (record : Record) :
    (debugAssert true fault).runIn build record = (.ok (), record) := by
  cases build <;> rfl

/-- Behind a pass that succeeds the outcome is that of the next one, which has
to end in the same way from every record. -/
theorem outcome_bind_of_ok {first : Pass α} {next : α → Pass β} {record : Record} {value : α}
    {outcome : Except Halt β} (hfirst : (first.runIn build record).1 = .ok value)
    (hnext : ∀ record, ((next value).runIn build record).1 = outcome) :
    ((first >>= next).runIn build record).1 = outcome := by
  rw [runIn_bind]
  generalize first.runIn build record = run at hfirst
  obtain ⟨result, after⟩ := run
  obtain rfl : result = .ok value := hfirst
  exact hnext after

/-- Behind a pass that fails nothing happens. -/
theorem outcome_bind_of_error {first : Pass α} {next : α → Pass β} {record : Record} {halt : Halt}
    (hfirst : (first.runIn build record).1 = .error halt) :
    ((first >>= next).runIn build record).1 = .error halt := by
  rw [runIn_bind]
  generalize first.runIn build record = run at hfirst
  obtain ⟨result, after⟩ := run
  obtain rfl : result = .error halt := hfirst
  rfl

/-- Two passes in turn end as their outcomes in turn. -/
theorem outcome_bind {first : Pass α} {next : α → Pass β} {record : Record}
    {outcome : Except Halt α} {nextOutcome : α → Except Halt β}
    (hfirst : (first.runIn build record).1 = outcome)
    (hnext : ∀ value record, ((next value).runIn build record).1 = nextOutcome value) :
    ((first >>= next).runIn build record).1 = outcome >>= nextOutcome := by
  cases outcome with
  | ok value => exact outcome_bind_of_ok hfirst (hnext value)
  | error halt => exact outcome_bind_of_error hfirst

/-- Behind the pass its result is only changed. -/
theorem outcome_map {first : Pass α} {next : α → Pass β} {record : Record}
    {outcome : Except Halt α} {change : α → β} (hfirst : (first.runIn build record).1 = outcome)
    (hnext : ∀ value record, ((next value).runIn build record).1 = .ok (change value)) :
    ((first >>= next).runIn build record).1 = outcome.map change := by
  cases outcome with
  | ok value => exact outcome_bind_of_ok hfirst (hnext value)
  | error halt => exact outcome_bind_of_error hfirst

end Pass

namespace Prepass

variable {method : MethodCode} {sink : Sink} {build : Build}

/-! ## The widths -/

/-- The loop over the code ends as the plain one. -/
theorem outcome_recordFrom (method : MethodCode) (lookup : WidthLookup) (sink : Sink)
    (address : Nat) (rest : List CodeUnit) (annotations : Annotations) (newInstances : Nat)
    (record : Record) :
    ((recordFrom method lookup sink address rest annotations newInstances).runIn build record).1 =
      scanFrom lookup address rest annotations newInstances := by
  fun_induction scanFrom lookup address rest annotations newInstances generalizing record with
  | case1 => rw [recordFrom, Pass.runIn_pure]
  | case2 address annotations newInstances unit units width hzero =>
      rw [recordFrom, dif_pos hzero, Pass.runIn_reject]
  | case3 address annotations newInstances unit units width hzero hwide =>
      rw [recordFrom, dif_neg hzero, if_pos hwide, Pass.runIn_reject]
  | case4 address annotations newInstances unit units width hzero hwide fault hset =>
      rw [recordFrom, dif_neg hzero, if_neg hwide]
      exact Pass.outcome_bind_of_error (Pass.outcome_orFault_of_error hset record)
  | case5 address annotations newInstances unit units width hzero hwide updated hset _ ih =>
      rw [recordFrom, dif_neg hzero, if_neg hwide]
      exact Pass.outcome_bind_of_ok (Pass.outcome_orFault_of_ok hset record) ih

/-- The scan ends as the plain one in every build. -/
theorem outcome_recordWidths (method : MethodCode) (lookup : WidthLookup)
    (annotations : Annotations) (sink : Sink) (record : Record) :
    ((recordWidths method lookup annotations sink).runIn build record).1 =
      scan lookup method.code annotations := by
  rw [recordWidths, scan]
  split
  · rfl
  · cases hscan : scanFrom lookup 0 method.code annotations 0 with
    | error halt =>
        exact Pass.outcome_bind_of_error ((outcome_recordFrom _ _ _ _ _ _ _ record).trans hscan)
    | ok found =>
        obtain ⟨stop, result⟩ := found
        apply Pass.outcome_bind_of_ok ((outcome_recordFrom _ _ _ _ _ _ _ record).trans hscan)
        intro record
        dsimp only
        by_cases hstop : stop = method.code.length
        · rw [if_neg (not_not_intro hstop), if_pos hstop]
          rfl
        · rw [if_pos hstop, if_neg hstop]
          rfl

/-! ## Try ranges -/

/-- The three sites of a range as one check. -/
theorem outcome_checkRange (method : MethodCode) (sink : Sink) (item : TryItem)
    (annotations : Annotations) (record : Record) :
    ((checkRange method sink item annotations).runIn build record).1 =
      refuse (rangeDefect annotations method.code.length item) := by
  rw [checkRange, rangeDefect]
  split
  · rfl
  · split
    · rfl
    · split <;> rfl

/-- One step of the walk over a range, at an instruction. -/
theorem outcome_coverRange_step {stop address : Nat} {annotations updated : Annotations}
    {outcome : Except Halt Annotations} (hbefore : address < stop)
    (hwidth : annotations.width address ≠ 0)
    (hset : annotations.setMark .inTry address true = .ok updated)
    (hrest : ∀ record, ((coverRange stop (address + annotations.width address) updated).runIn
      build record).1 = outcome)
    (record : Record) : ((coverRange stop address annotations).runIn build record).1 = outcome := by
  rw [coverRange, dif_pos hbefore]
  dsimp only
  rw [bne_iff_ne.mpr hwidth, dif_neg hwidth]
  apply Pass.outcome_bind_of_ok (congrArg Prod.fst (Pass.debugAssert_true _ _))
  intro record
  exact Pass.outcome_bind_of_ok (Pass.outcome_orFault_of_ok hset record) hrest

/-- A debug build stops at the first gap. -/
theorem outcome_coverRange (stop address : Nat) (annotations : Annotations) (record : Record) :
    ((coverRange stop address annotations).runFrom record).1 =
      markInstructions stop address annotations := by
  fun_induction markInstructions stop address annotations generalizing record with
  | case1 address annotations hbefore width hzero =>
      have hgap : (annotations.width address != 0) = false := by
        rw [bne_eq_false_iff_eq]
        exact hzero
      rw [coverRange, dif_pos hbefore]
      dsimp only
      rw [hgap]
      exact Pass.outcome_bind_of_error rfl
  | case2 address annotations hbefore width hzero fault hset =>
      rw [coverRange, dif_pos hbefore]
      dsimp only
      rw [bne_iff_ne.mpr hzero, dif_neg hzero]
      apply Pass.outcome_bind_of_ok (congrArg Prod.fst (Pass.debugAssert_true _ _))
      intro record
      exact Pass.outcome_bind_of_error (Pass.outcome_orFault_of_error hset record)
  | case3 address annotations hbefore width hzero updated hset _ ih =>
      exact outcome_coverRange_step hbefore hzero hset ih record
  | case4 address annotations hbeyond =>
      rw [coverRange, dif_neg hbeyond]
      rfl

/-- A debug build goes through the ranges as the plain checks do. -/
theorem outcome_coverRanges (method : MethodCode) (sink : Sink) (items : List TryItem)
    (annotations : Annotations) (record : Record) :
    ((coverRanges method sink items annotations).runFrom record).1 =
      markRanges method.code.length items annotations := by
  fun_induction markRanges method.code.length items annotations generalizing record with
  | case1 => rfl
  | case2 annotations item items defect hdefect =>
      apply Pass.outcome_bind_of_error
      rw [outcome_checkRange, hdefect]
      rfl
  | case3 annotations item items hnone halt hmark =>
      apply Pass.outcome_bind_of_ok
      · rw [outcome_checkRange, hnone]
        rfl
      · intro record
        exact Pass.outcome_bind_of_error ((outcome_coverRange _ _ _ record).trans hmark)
  | case4 annotations item items hnone marked hmark ih =>
      apply Pass.outcome_bind_of_ok
      · rw [outcome_checkRange, hnone]
        rfl
      · intro record
        exact Pass.outcome_bind_of_ok ((outcome_coverRange _ _ _ record).trans hmark) ih

/-! ## Handlers -/

theorem markTargets_append (handlers others : List Handler) (annotations : Annotations) :
    markTargets (handlers ++ others) annotations =
      markTargets handlers annotations >>= markTargets others := by
  induction handlers generalizing annotations with
  | nil => rfl
  | cons handler handlers ih =>
      rw [List.cons_append, markTargets, markTargets]
      cases annotations.isStart handler.address.toNat with
      | false => rfl
      | true =>
          cases annotations.setMark .branchTarget handler.address.toNat true with
          | error fault => rfl
          | ok updated => exact ih updated

theorem targetGroup_of_next_none {reader after : GroupReader} (hnext : reader.next = (none, after))
    (annotations : Annotations) :
    targetGroup method sink reader annotations = pure (after.position, annotations) := by
  rw [targetGroup]
  split <;> simp_all

/-- One step of the loop over a group. -/
theorem targetGroup_of_next_some {reader after : GroupReader} {item : Except ReadError Handler}
    (hnext : reader.next = (some item, after)) (annotations : Annotations) :
    targetGroup method sink reader annotations =
      orMalformed method sink item >>= fun handler =>
        if annotations.isStart handler.address.toNat then
          Pass.orFault (annotations.setMark .branchTarget handler.address.toNat true) >>=
            targetGroup method sink after
        else
          Pass.reject sink method.method (.badHandlerTarget handler.address.toNat) := by
  rw [targetGroup]
  split <;> simp_all

/-- The group is read in full before its handlers are checked. -/
theorem outcome_targetGroup (method : MethodCode) (sink : Sink) (reader : GroupReader)
    (annotations : Annotations) (record : Record) :
    ((targetGroup method sink reader annotations).runIn build record).1 = do
      let marked ← markTargets reader.drain.1 annotations
      match reader.drain.2 with
      | .error cause => throw (.rejected (.malformedHandlers cause))
      | .ok after => return (after.position, marked) := by
  induction reader using GroupReader.drain.induct generalizing annotations record with
  | case1 reader after hnext =>
      rw [GroupReader.drain_of_next_none hnext, targetGroup_of_next_none hnext]
      rfl
  | case2 reader cause after hnext =>
      rw [GroupReader.drain_of_next_error hnext, targetGroup_of_next_some hnext]
      rfl
  | case3 reader handler after hnext _ _ _ _ ih =>
      rw [GroupReader.drain_of_next_ok hnext, targetGroup_of_next_some hnext, markTargets]
      cases hstart : annotations.isStart handler.address.toNat with
      | false =>
          apply Pass.outcome_bind_of_ok rfl
          intro record
          simp only [hstart]
          rfl
      | true =>
          apply Pass.outcome_bind_of_ok rfl
          intro record
          simp only [hstart, if_true]
          cases hset : annotations.setMark .branchTarget handler.address.toNat true with
          | error fault => rfl
          | ok updated => exact Pass.outcome_bind_of_ok rfl (ih updated)

/-- The handlers that a walk found are checked, and then it counts whether the walk
came to its end. -/
def checkWalk (found : HandlerWalk) (annotations : Annotations) : Except Halt Annotations := do
  let marked ← markTargets found.handlers annotations
  match found.ending with
  | .error cause => throw (.rejected (.malformedHandlers cause))
  | .ok _ => return marked

/-- The groups are checked one after the other. -/
theorem checkWalk_cons (group : HandlerGroupAt) (found : HandlerWalk) (annotations : Annotations) :
    checkWalk { found with groups := group :: found.groups } annotations =
      markTargets group.handlers annotations >>= checkWalk found := by
  have hhandlers : HandlerWalk.handlers { found with groups := group :: found.groups } =
      group.handlers ++ found.handlers := by
    rw [HandlerWalk.handlers, List.flatMap_cons, List.append_assoc]
    rfl
  rw [checkWalk, hhandlers, markTargets_append]
  cases markTargets group.handlers annotations <;> rfl

/-- Reading on from where a group has ended is the walk over the list. -/
theorem outcome_targetGroups (method : MethodCode) (sink : Sink) (count offset : Nat)
    (annotations : Annotations) (record : Record) :
    ((targetGroups method sink count offset annotations).runIn build record).1 =
      checkWalk (HandlerList.walkFrom count (.ofOffset method.handlers offset)) annotations := by
  induction count generalizing offset annotations record with
  | zero => rfl
  | succ count ih =>
      rw [targetGroups, HandlerList.walkFrom, HandlerList.groupAt]
      cases hstart : GroupReader.start (.ofOffset method.handlers offset) with
      | error cause => rfl
      | ok reader =>
          apply Pass.outcome_bind_of_ok rfl
          intro record
          refine (Pass.outcome_bind (outcome_targetGroup method sink reader annotations record)
            fun result record => ih result.1 result.2 record).trans ?_
          dsimp only
          cases hdrain : reader.drain with
          | mk handlers outcome =>
              cases outcome with
              | error cause =>
                  have hhandlers : HandlerWalk.handlers ⟨[], handlers, .error cause⟩ = handlers := rfl
                  rw [checkWalk, hhandlers]
                  cases markTargets handlers annotations <;> rfl
              | ok after =>
                  -- The pass goes on at an offset and the walk with a cursor, which is there.
                  obtain ⟨bytes, -, hpasses⟩ := HandlerList.encodesGroup_of_drain hstart hdrain
                  have hafter : Cursor.ofOffset method.handlers after.position = after := by
                    rw [hpasses.2]
                    exact Cursor.ofOffset_of_passes hpasses
                  rw [checkWalk_cons]
                  cases markTargets handlers annotations with
                  | error halt => rfl
                  | ok marked => exact congrArg (fun cursor => checkWalk
                      (HandlerList.walkFrom count cursor) marked) hafter

theorem exists_ending_of_checkWalk {found : HandlerWalk} {annotations marked : Annotations}
    (hcheck : checkWalk found annotations = .ok marked) : ∃ stop, found.ending = .ok stop := by
  obtain ⟨_, -, hending⟩ := bind_eq_ok_iff.mp hcheck
  cases hstop : found.ending with
  | error cause =>
      rw [hstop] at hending
      cases hending
  | ok stop => exact ⟨stop, rfl⟩

theorem markHandlers_of_walk {data : Bytes} {found : HandlerWalk}
    (hwalk : HandlerList.walk data = .ok found) (annotations : Annotations) :
    markHandlers data annotations =
      (checkWalk found annotations).map fun marked => (found.groups.length, marked) := by
  rw [markHandlers, hwalk, checkWalk]
  dsimp only
  cases markTargets found.handlers annotations with
  | error halt => rfl
  | ok marked => cases found.ending <;> rfl

/-- The handler list is checked with the same result in every build. -/
theorem outcome_targetHandlers (method : MethodCode) (sink : Sink) (annotations : Annotations)
    (record : Record) :
    ((targetHandlers method sink annotations).runIn build record).1 =
      markHandlers method.handlers annotations := by
  cases hcount : HandlerList.size method.handlers with
  | error cause =>
      rw [targetHandlers, markHandlers, HandlerList.walk, hcount]
      rfl
  | ok count =>
      cases hfirst : HandlerList.firstOffset method.handlers with
      | error cause =>
          rw [targetHandlers, markHandlers, HandlerList.walk, hcount, hfirst]
          rfl
      | ok first =>
          have hwalk : HandlerList.walk method.handlers =
              .ok (HandlerList.walkFrom count.toNat (.ofOffset method.handlers first)) := by
            rw [HandlerList.walk, hcount, hfirst]
            rfl
          rw [markHandlers_of_walk hwalk, targetHandlers, hcount, hfirst]
          apply (Pass.outcome_map (outcome_targetGroups _ _ _ _ _ _) fun _ _ => rfl).trans
          cases hcheck : checkWalk (HandlerList.walkFrom count.toNat
              (.ofOffset method.handlers first)) annotations with
          | error halt => rfl
          | ok marked =>
              -- A walk that comes to its end has met as many groups as were announced.
              obtain ⟨stop, hending⟩ := exists_ending_of_checkWalk hcheck
              obtain ⟨-, -, -, hlength, -⟩ := HandlerList.encodes_of_walkFrom hending
              rw [HandlerWalk.handlerGroups, List.length_map] at hlength
              rw [hlength]

/-! ## Whole passes -/

theorem outcome_markTries_of_nil (htries : method.tries = []) (annotations : Annotations)
    (record : Record) :
    ((markTries method annotations sink).runIn build record).1 =
      triesOutcome method annotations := by
  have hempty : method.tries.isEmpty := List.isEmpty_iff.mpr htries
  rw [markTries, triesOutcome, if_pos hempty, if_pos hempty]
  rfl

/-- A pass over a table that is not empty ends as its ranges and its handlers do. -/
theorem outcome_markTries_of_ranges {annotations : Annotations} {outcome : Except Halt Annotations}
    (htries : method.tries ≠ []) (hsize : annotations.size = method.code.length)
    (hranges : ∀ record,
      ((coverRanges method sink method.tries annotations).runIn build record).1 = outcome)
    (record : Record) :
    ((markTries method annotations sink).runIn build record).1 =
      outcome >>= fun covered => (markHandlers method.handlers covered).map Prod.snd := by
  rw [markTries, if_neg (List.isEmpty_iff.not.mpr htries), if_neg (not_not_intro hsize)]
  apply Pass.outcome_bind (hranges record)
  intro covered record
  exact Pass.outcome_map (outcome_targetHandlers _ _ _ _) fun _ _ => rfl

/-- With at least one range the ranges come first and then the handlers. -/
theorem triesOutcome_of_ne_nil {annotations : Annotations} (htries : method.tries ≠ [])
    (hsize : annotations.size = method.code.length) :
    triesOutcome method annotations =
      markRanges method.code.length method.tries annotations >>= fun covered =>
        (markHandlers method.handlers covered).map Prod.snd := by
  rw [triesOutcome, if_neg (List.isEmpty_iff.not.mpr htries), checkTable,
    if_neg (not_not_intro hsize)]
  cases markRanges method.code.length method.tries annotations <;> rfl

/-- A debug build checks the exception table as the plain checks do. -/
theorem outcome_markTries (method : MethodCode) (annotations : Annotations) (sink : Sink)
    (record : Record) :
    ((markTries method annotations sink).runFrom record).1 = triesOutcome method annotations := by
  by_cases htries : method.tries = []
  · exact outcome_markTries_of_nil htries annotations record
  · by_cases hsize : annotations.size = method.code.length
    · rw [triesOutcome_of_ne_nil htries hsize]
      exact outcome_markTries_of_ranges htries hsize (outcome_coverRanges _ _ _ _) record
    · have hnonempty : ¬method.tries.isEmpty := List.isEmpty_iff.not.mpr htries
      rw [markTries, triesOutcome, if_neg hnonempty, if_neg hnonempty, checkTable, if_pos hsize,
        if_pos hsize]
      rfl

/-- Both passes end as the plain checks do if the second one does so on what the
first one leaves. -/
theorem outcome_prepare_of_scan {lookup : WidthLookup}
    (htries : ∀ result, scan lookup method.code (.blank method.code.length) = .ok result →
      ∀ record, ((markTries method result.annotations sink).runIn build record).1 =
        triesOutcome method result.annotations)
    (record : Record) :
    ((prepare method lookup sink).runIn build record).1 = do
      let result ← scan lookup method.code (.blank method.code.length)
      let annotations ← triesOutcome method result.annotations
      return ⟨annotations, result.newInstances⟩ := by
  rw [prepare]
  cases hscan : scan lookup method.code (.blank method.code.length) with
  | error halt => exact Pass.outcome_bind_of_error ((outcome_recordWidths _ _ _ _ _).trans hscan)
  | ok result =>
      apply Pass.outcome_bind_of_ok ((outcome_recordWidths _ _ _ _ _).trans hscan)
      intro record
      apply Pass.outcome_bind (htries result hscan record)
      intro annotations record
      cases method.method <;> rfl

/-- A debug build prepares a method as the plain checks do, one after the other. -/
theorem outcome_prepare (method : MethodCode) (lookup : WidthLookup) (sink : Sink)
    (record : Record) :
    ((prepare method lookup sink).runFrom record).1 = do
      let result ← scan lookup method.code (.blank method.code.length)
      let annotations ← triesOutcome method result.annotations
      return ⟨annotations, result.newInstances⟩ :=
  outcome_prepare_of_scan (fun result _ => outcome_markTries method result.annotations sink) record

end Prepass

end DalvikPrepass
