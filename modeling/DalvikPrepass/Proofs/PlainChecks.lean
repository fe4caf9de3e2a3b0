import DalvikPrepass.Prepass.Prepare

/-!
# What the passes check

The passes as plain functions, without a record, a sink or the name of a method.
Here the handler list is read first and its handlers are checked afterwards, and
a gap in a try range is always a fault.
-/

namespace DalvikPrepass.Prepass

/-! ## Widths -/

/-- Splits the rest of the code, which starts at `address`, and gives the
address after its last instruction. -/
def scanFrom (lookup : WidthLookup) (address : Nat) (rest : List CodeUnit)
    (annotations : Annotations) (newInstances : Nat) : Except Halt (Nat × WidthScan) :=
  match rest with
  | [] => .ok (address, ⟨annotations, newInstances⟩)
  | unit :: units =>
      let width := lookup (unit :: units)
      if hzero : width = 0 then
        .error (.rejected (.invalidInstruction address unit))
      else if Annotations.maxWidth < width then
        .error (.rejected (.insaneWidth address width))
      else
        match annotations.setWidth address (UInt16.ofNat width) with
        | .error fault => .error (.fault fault)
        | .ok annotations =>
            have := length_drop_width_lt unit units hzero
            scanFrom lookup (address + width) ((unit :: units).drop width) annotations
              (newInstances + newInstanceCount unit)
termination_by rest.length

/-- Splits all of the code. -/
def scan (lookup : WidthLookup) (code : List CodeUnit) (annotations : Annotations) :
    Except Halt WidthScan :=
  if annotations.size ≠ code.length then
    .error (.fault (.sizeMismatch annotations.size code.length))
  else
    match scanFrom lookup 0 code annotations 0 with
    | .error halt => .error halt
    | .ok (stop, result) =>
        if stop = code.length then .ok result
        else .error (.rejected (.cutInstruction stop code.length))

/-! ## The exception table -/

/-- What is wrong with a try range of a method of `length` code units. -/
def rangeDefect (annotations : Annotations) (length : Nat) (item : TryItem) : Option Defect :=
  let start := item.start.toNat
  if item.stop ≤ start then
    some (.emptyRange start item.stop length)
  else if length ≤ start ∨ length < item.stop then
    some (.rangeOutOfBounds start item.stop length)
  else if annotations.isStart start then
    none
  else
    some (.misalignedStart start)

/-- Passes unless there is a defect. -/
def refuse : Option Defect → Except Halt Unit
  | some defect => .error (.rejected defect)
  | none => .ok ()

/-- Marks the instructions from `address` up to `stop`. -/
def markInstructions (stop address : Nat) (annotations : Annotations) :
    Except Halt Annotations :=
  if hbefore : address < stop then
    let width := annotations.width address
    if hzero : width = 0 then
      .error (.fault (.gapInTry address))
    else
      match annotations.setMark .inTry address true with
      | .error fault => .error (.fault fault)
      | .ok annotations =>
          have := sub_add_width_lt hbefore hzero
          markInstructions stop (address + width) annotations
  else
    .ok annotations
termination_by stop - address

/-- Checks the try ranges in order and marks what they cover. -/
def markRanges (length : Nat) : List TryItem → Annotations → Except Halt Annotations
  | [], annotations => .ok annotations
  | item :: items, annotations =>
      match rangeDefect annotations length item with
      | some defect => .error (.rejected defect)
      | none =>
          match markInstructions item.stop item.start.toNat annotations with
          | .error halt => .error halt
          | .ok annotations => markRanges length items annotations

/-- Checks the handlers in order and marks where they start. -/
def markTargets : List Handler → Annotations → Except Halt Annotations
  | [], annotations => .ok annotations
  | handler :: handlers, annotations =>
      let address := handler.address.toNat
      if annotations.isStart address then
        match annotations.setMark .branchTarget address true with
        | .error fault => .error (.fault fault)
        | .ok annotations => markTargets handlers annotations
      else
        .error (.rejected (.badHandlerTarget address))

/-- Reads the handler list and marks where its handlers start, up to the first
handler or value that is wrong.  Gives the number of groups as well. -/
def markHandlers (handlers : Bytes) (annotations : Annotations) :
    Except Halt (Nat × Annotations) :=
  match HandlerList.walk handlers with
  | .error cause => .error (.rejected (.malformedHandlers cause))
  | .ok walk =>
      match markTargets walk.handlers annotations, walk.ending with
      | .error halt, _ => .error halt
      | .ok _, .error cause => .error (.rejected (.malformedHandlers cause))
      | .ok annotations, .ok _ => .ok (walk.groups.length, annotations)

/-- Checks the exception table of a method that has one. -/
def checkTable (method : MethodCode) (annotations : Annotations) :
    Except Halt (Nat × Annotations) :=
  let length := method.code.length
  if annotations.size ≠ length then
    .error (.fault (.sizeMismatch annotations.size length))
  else
    match markRanges length method.tries annotations with
    | .error halt => .error halt
    | .ok annotations => markHandlers method.handlers annotations

/-- The pass over the exception table. -/
def triesOutcome (method : MethodCode) (annotations : Annotations) : Except Halt Annotations :=
  if method.tries.isEmpty then .ok annotations
  else (checkTable method annotations).map Prod.snd

end DalvikPrepass.Prepass
