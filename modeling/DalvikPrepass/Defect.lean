import DalvikPrepass.Instruction.Opcode
import DalvikPrepass.ReadError

/-!
# Defects

Why the pre-pass rejects a method.  Addresses and lengths count code units.
-/

namespace DalvikPrepass

inductive Defect where
  /-- No instruction is recognised at `address`. -/
  | invalidInstruction (address : Nat) (unit : CodeUnit)
  /-- The instruction at `address` claims a width that no annotation holds. -/
  | insaneWidth (address width : Nat)
  /-- The last instruction ends at `stop`, past the `length` code units. -/
  | cutInstruction (stop length : Nat)
  /-- A try range covers nothing. -/
  | emptyRange (start stop length : Nat)
  /-- A try range reaches past the end of the code. -/
  | rangeOutOfBounds (start stop length : Nat)
  /-- A try range does not start on an instruction. -/
  | misalignedStart (start : Nat)
  /-- A handler does not start on an instruction. -/
  | badHandlerTarget (address : Nat)
  /-- The handler list cannot be read. -/
  | malformedHandlers (cause : ReadError)
  deriving DecidableEq, Repr

namespace Defect

open Numeral

/-- The bounds of a try range and the length of the code. -/
def shownRange (start stop length : Nat) : String :=
  "start=" ++ hex start ++ " end=" ++ hex stop ++ " (size=" ++ hex length ++ ")"

def message : Defect → String
  | invalidInstruction address unit =>
      "invalid instruction " ++ hexFilled 4 unit.toNat ++ " at " ++ hex address
  | insaneWidth address width =>
      "instruction at " ++ hex address ++ " has insane width " ++ toString width
  | cutInstruction stop length =>
      "code ends at " ++ hex stop ++ " instead of " ++ hex length
  | emptyRange start stop length => "bad try range: " ++ shownRange start stop length
  | rangeOutOfBounds start stop length =>
      "try range out of bounds: " ++ shownRange start stop length
  | misalignedStart start => "try range starts inside an instruction (" ++ hex start ++ ")"
  | badHandlerTarget address =>
      "exception handler starts at bad address (" ++ hex address ++ ")"
  | malformedHandlers cause => "malformed catch handler list: " ++ cause.message

end Defect

end DalvikPrepass
