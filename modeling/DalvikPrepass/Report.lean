import DalvikPrepass.Instruction.Branch
import DalvikPrepass.Prepass.Prepare

/-!
# Reports on prepared methods

One line for each instruction: its address and width, a `T` if it is inside a
try range, a `B` if a branch or a handler leads to it, its mnemonic, and for a
branch its distance and target.
-/

namespace DalvikPrepass.Report

open Numeral

/-- Name of the instruction or payload that starts with this code unit. -/
def mnemonic (unit : CodeUnit) : String :=
  match Payload.ofUnit unit, Opcode.ofUnit unit with
  | some payload, _ => payload.mnemonic
  | none, some opcode => opcode.mnemonic
  | none, none => "<unknown>"

/-- What is shown of a branch at `address`. -/
def branchText (branch : Branch) (address : Nat) : String :=
  let kind := if branch.conditional then "cond" else "goto"
  let target := match branch.absolute address with
    | some target => hexFilled 4 target
    | none => "<before start>"
  "  " ++ kind ++ " " ++ signed branch.offset.toInt ++ " -> " ++ target

/-- The line for the instruction at `address`, where the code goes on with
`unit` and `units`. -/
def instructionLine (annotations : Annotations) (address : Nat) (unit : CodeUnit)
    (units : List CodeUnit) : String :=
  let inTry := if annotations.has .inTry address then "T" else " "
  let target := if annotations.has .branchTarget address then "B" else " "
  let branch := match Branch.decode (unit :: units) with
    | some branch => branchText branch address
    | none => ""
  "    " ++ hexFilled 4 address ++ "  w=" ++ padRight 3 (toString (annotations.width address)) ++
    " " ++ inTry ++ target ++ "  " ++ mnemonic unit ++ branch ++ "\n"

/-- The lines for the rest of the code, which starts at `address`, after the
text so far. -/
def instructionLines (annotations : Annotations) (address : Nat) (text : String) :
    List CodeUnit → String
  | [] => text
  | unit :: units =>
      let text :=
        if annotations.isStart address then
          text ++ instructionLine annotations address unit units
        else
          text
      instructionLines annotations (address + 1) text units

/-- The line that names the method, if it is known. -/
def header (method : Option MethodId) : String :=
  match method with
  | some id => ".method " ++ id.shown ++ "\n"
  | none => ""

/-- The report on a method that passed. -/
def render (method : MethodCode) (prepared : Prepass.Prepared) : String :=
  instructionLines prepared.annotations 0 (header method.method) method.code ++
    "    # new-instance: " ++ toString prepared.newInstances ++ "\n"

end DalvikPrepass.Report
