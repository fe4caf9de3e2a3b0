import DalvikPrepass.Instruction.Opcode

/-!
# Branches

`goto` and `if-*` instructions name their target by its distance from their own
address, in code units.
-/

namespace DalvikPrepass

structure Branch where
  /-- Distance from the branch instruction to its target. -/
  offset : Int32
  /-- `if-*` branches may fall through; `goto` never does. -/
  conditional : Bool
  deriving DecidableEq, Repr

namespace Branch

/-- The target of a branch at `address`; `none` if it lies before address 0. -/
def absolute (branch : Branch) (address : Nat) : Option Nat :=
  (address + branch.offset.toInt).toNat?

/-- A signed distance stored in one code unit. -/
def unitOffset (unit : CodeUnit) : Int32 :=
  unit.toInt16.toInt32

/-- The branch at the front of the code; `none` for every other instruction and
for a branch that the end of the code cuts off. -/
def decode : List CodeUnit → Option Branch
  | [] => none
  | unit :: operands =>
      let value := Opcode.valueOf unit
      if value = 0x28 then
        some ⟨(unit / 0x100).toUInt8.toInt8.toInt32, false⟩
      else if value = 0x29 then
        match operands with
        | offset :: _ => some ⟨unitOffset offset, false⟩
        | [] => none
      else if value = 0x2a then
        match operands with
        | low :: high :: _ =>
            some ⟨(low.toUInt32 + 0x10000 * high.toUInt32).toInt32, false⟩
        | _ => none
      else if 0x32 ≤ value ∧ value ≤ 0x3d then
        match operands with
        | offset :: _ => some ⟨unitOffset offset, true⟩
        | [] => none
      else
        none

/-- The branch at `address` in a method's code. -/
def decodeAt (code : List CodeUnit) (address : Nat) : Option Branch :=
  decode (code.drop address)

end Branch

end DalvikPrepass
