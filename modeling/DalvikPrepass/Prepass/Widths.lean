import DalvikPrepass.Instruction.Width
import DalvikPrepass.Prepass.Pass

/-!
# Splitting code into instructions

The code is cut into instructions from its start on: each instruction's width
leads to the next one, and its first code unit is annotated with it.  The code
has to end just where its last instruction does.
-/

namespace DalvikPrepass.Prepass

/-- What splitting the code has found. -/
structure WidthScan where
  annotations : Annotations
  /-- Number of `new-instance` instructions. -/
  newInstances : Nat
  deriving DecidableEq, Repr

/-- One if a `new-instance` instruction starts with this code unit. -/
def newInstanceCount (unit : CodeUnit) : Nat :=
  if Opcode.valueOf unit = Opcode.newInstance then 1 else 0

/-- An instruction that is recognised leaves less code than there was. -/
theorem length_drop_width_lt (unit : CodeUnit) (units : List CodeUnit) {width : Nat}
    (hwidth : width ≠ 0) : ((unit :: units).drop width).length < (unit :: units).length := by
  simp only [List.length_drop, List.length_cons]
  omega

/-- Splits the rest of the code, which starts at `address`, and gives the
address after its last instruction. -/
def recordFrom (method : MethodCode) (lookup : WidthLookup) (sink : Sink) (address : Nat)
    (rest : List CodeUnit) (annotations : Annotations) (newInstances : Nat) :
    Pass (Nat × WidthScan) :=
  match rest with
  | [] => return (address, ⟨annotations, newInstances⟩)
  | unit :: units =>
      let width := lookup (unit :: units)
      if hzero : width = 0 then
        Pass.reject sink method.method (.invalidInstruction address unit)
      else if Annotations.maxWidth < width then
        Pass.reject sink method.method (.insaneWidth address width)
      else do
        let annotations ← Pass.orFault (annotations.setWidth address (UInt16.ofNat width))
        have := length_drop_width_lt unit units hzero
        recordFrom method lookup sink (address + width) ((unit :: units).drop width) annotations
          (newInstances + newInstanceCount unit)
termination_by rest.length

/-- Annotates every instruction of the method with its width and counts its
`new-instance` instructions.  The annotations have one word for each code unit;
marks in them are kept. -/
def recordWidths (method : MethodCode) (lookup : WidthLookup) (annotations : Annotations)
    (sink : Sink) : Pass WidthScan :=
  let length := method.code.length
  if annotations.size ≠ length then
    throw (.fault (.sizeMismatch annotations.size length))
  else do
    let (stop, result) ← recordFrom method lookup sink 0 method.code annotations 0
    if stop ≠ length then
      Pass.reject sink method.method (.cutInstruction stop length)
    else do
      Pass.log .trace .widths
        ("widths: " ++ toString length ++ " code units, " ++ toString result.newInstances ++
          " new-instance")
      return result

end DalvikPrepass.Prepass
