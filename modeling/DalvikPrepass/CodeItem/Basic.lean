import DalvikPrepass.Handler.List
import DalvikPrepass.Instruction.Opcode

/-!
# Method bodies

A code item holds the body of one method: its registers, its code, the ranges
of the code that are covered by exception handlers, and the handlers as encoded
bytes.
-/

namespace DalvikPrepass

/-- A range of code units that is covered by a handler group. -/
structure TryItem where
  /-- First code unit covered. -/
  start : UInt32
  /-- Number of code units covered. -/
  count : UInt32
  /-- Offset of the handler group in the handler list. -/
  handlerOffset : UInt32
  deriving DecidableEq, Repr

/-- The address after the last code unit covered, which may be past `2 ^ 32`. -/
def TryItem.stop (item : TryItem) : Nat :=
  item.start.toNat + item.count.toNat

structure CodeItem where
  registers : UInt16
  ins : UInt16
  outs : UInt16
  debugInfoOffset : UInt32
  code : List CodeUnit
  tries : List TryItem
  /-- The encoded handler list, empty if there are no try ranges. -/
  handlers : Bytes
  deriving DecidableEq, Repr

end DalvikPrepass
