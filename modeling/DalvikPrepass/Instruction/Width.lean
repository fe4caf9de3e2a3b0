import DalvikPrepass.Instruction.Opcode

/-!
# Instruction widths

Most instructions are as wide as their format says.  Switch tables and array
data lie between them as payloads: a payload's first code unit is its signature,
whose low byte is that of `nop`, and a short header after it says how long the
payload is.
-/

namespace DalvikPrepass

/-- Width, in code units, of the instruction at the front of a non-empty run of
code units that goes on to the end of the method.  The width `0` says that no
instruction is recognised there.  An instruction may be wider than the run. -/
abbrev WidthLookup := List CodeUnit → Nat

inductive Payload where
  | packedSwitch
  | sparseSwitch
  | fillArrayData
  deriving DecidableEq, Repr

namespace Payload

def signature : Payload → CodeUnit
  | packedSwitch => 0x0100
  | sparseSwitch => 0x0200
  | fillArrayData => 0x0300

def mnemonic : Payload → String
  | packedSwitch => "packed-switch-payload"
  | sparseSwitch => "sparse-switch-payload"
  | fillArrayData => "fill-array-data-payload"

def all : List Payload :=
  [packedSwitch, sparseSwitch, fillArrayData]

/-- The payload that starts with this code unit. -/
def ofUnit (unit : CodeUnit) : Option Payload :=
  all.find? fun payload => payload.signature == unit

/-- Width of a payload, from the code units after its signature.  Where they end
inside the header, the width is that of the header without any entries, which
is still more than there is. -/
def width : Payload → List CodeUnit → Nat
  | packedSwitch, entries :: _ => 4 + entries.toNat * 2
  | packedSwitch, [] => 4
  | sparseSwitch, entries :: _ => 2 + entries.toNat * 4
  | sparseSwitch, [] => 2
  | fillArrayData, elementWidth :: low :: high :: _ =>
      let elements := low.toNat + 0x10000 * high.toNat
      4 + (elementWidth.toNat * elements + 1) / 2
  | fillArrayData, _ => 4

end Payload

/-- Width of the payload at the front of the code, if one starts there. -/
def payloadWidth : List CodeUnit → Option Nat
  | [] => none
  | unit :: rest => (Payload.ofUnit unit).map fun payload => payload.width rest

/-- Widths of the standard instruction set, payloads included. -/
def dalvikWidth : WidthLookup := fun code =>
  match payloadWidth code with
  | some width => width
  | none => ((code.head?.bind Opcode.ofUnit).map Opcode.size).getD 0

/-- A lookup that sees the first code unit only. -/
def unitWidth (width : CodeUnit → Nat) : WidthLookup := fun code =>
  (code.head?.map width).getD 0

end DalvikPrepass
