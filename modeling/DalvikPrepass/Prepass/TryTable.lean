import DalvikPrepass.Prepass.Pass

/-!
# Checking the exception table

Each try range has to cover some of the code and to start on an instruction.
The instructions that it covers are marked.  Then the handler list is read, and
every handler has to start on an instruction, which is marked as the target of a
branch.  The first defect counts: the ranges in the order of the table, then the
handler list from its start.
-/

namespace DalvikPrepass.Prepass

section Passes

variable (method : MethodCode) (sink : Sink)

/-! ## Try ranges -/

/-- Checks a try range: it is not empty, lies inside the code and starts on an
instruction. -/
def checkRange (item : TryItem) (annotations : Annotations) : Pass Unit :=
  let length := method.code.length
  let start := item.start.toNat
  if item.stop ≤ start then
    Pass.reject sink method.method (.emptyRange start item.stop length)
  else if length ≤ start ∨ length < item.stop then
    Pass.reject sink method.method (.rangeOutOfBounds start item.stop length)
  else if annotations.isStart start then
    return ()
  else
    Pass.reject sink method.method (.misalignedStart start)

/-- An instruction leaves less of a range than there was. -/
theorem sub_add_width_lt {stop address width : Nat} (hbefore : address < stop)
    (hwidth : width ≠ 0) : stop - (address + width) < stop - address := by
  omega

/-- Marks the instructions from `address` up to `stop`. -/
def coverRange (stop address : Nat) (annotations : Annotations) : Pass Annotations :=
  if hbefore : address < stop then do
    let width := annotations.width address
    Pass.debugAssert (width != 0) (.gapInTry address)
    if hzero : width = 0 then
      return annotations
    else
      let annotations ← Pass.orFault (annotations.setMark .inTry address true)
      have := sub_add_width_lt hbefore hzero
      coverRange stop (address + width) annotations
  else
    return annotations
termination_by stop - address

/-- Checks the try ranges in order and marks what they cover. -/
def coverRanges : List TryItem → Annotations → Pass Annotations
  | [], annotations => return annotations
  | item :: items, annotations => do
      checkRange method sink item annotations
      let annotations ← coverRange item.stop item.start.toNat annotations
      coverRanges items annotations

/-! ## Handlers -/

/-- A value of the handler list; if it cannot be read the list is malformed. -/
def orMalformed {α : Type} : Except ReadError α → Pass α
  | .ok value => pure value
  | .error cause => Pass.reject sink method.method (.malformedHandlers cause)

/-- Reads the handlers of a group and marks where they start.  Gives the offset
after the last one as well. -/
def targetGroup (reader : GroupReader) (annotations : Annotations) : Pass (Nat × Annotations) :=
  match hnext : reader.next with
  | (none, after) => return (after.position, annotations)
  | (some item, after) => do
      let handler ← orMalformed method sink item
      let address := handler.address.toNat
      if annotations.isStart address then
        let annotations ← Pass.orFault (annotations.setMark .branchTarget address true)
        have : after.remaining < reader.remaining := GroupReader.remaining_next_lt hnext
        targetGroup after annotations
      else
        Pass.reject sink method.method (.badHandlerTarget address)
termination_by reader.remaining

/-- Reads `count` groups from `offset` on, one after the other. -/
def targetGroups : (count offset : Nat) → Annotations → Pass Annotations
  | 0, _, annotations => return annotations
  | count + 1, offset, annotations => do
      let reader ← orMalformed method sink (HandlerList.groupAt method.handlers offset)
      let (offset, annotations) ← targetGroup method sink reader annotations
      targetGroups count offset annotations

/-- Reads the handler list and marks where its handlers start, up to the first
handler or value that is wrong.  Gives the number of groups as well. -/
def targetHandlers (annotations : Annotations) : Pass (Nat × Annotations) := do
  let count ← orMalformed method sink (HandlerList.size method.handlers)
  let offset ← orMalformed method sink (HandlerList.firstOffset method.handlers)
  let annotations ← targetGroups method sink count.toNat offset annotations
  return (count.toNat, annotations)

end Passes

/-- Checks the exception table and marks the instructions in try ranges and at
the start of handlers.  The annotations hold the widths of the method's
instructions.  Without a try range there is nothing to check, and the handler
list is not looked at. -/
def markTries (method : MethodCode) (annotations : Annotations) (sink : Sink) :
    Pass Annotations :=
  if method.tries.isEmpty then
    return annotations
  else
    let length := method.code.length
    if annotations.size ≠ length then
      throw (.fault (.sizeMismatch annotations.size length))
    else do
      let annotations ← coverRanges method sink method.tries annotations
      let (groups, annotations) ← targetHandlers method sink annotations
      Pass.log .trace .tryTable
        ("try flags: " ++ toString method.tries.length ++ " ranges, " ++ toString groups ++
          " handler groups")
      return annotations

end DalvikPrepass.Prepass
