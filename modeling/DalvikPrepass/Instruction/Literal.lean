/-!
# Literal categories

The narrowest register category that holds a 32-bit literal.  Categories are
ordered from narrow to wide; one without a sign comes just before its signed
counterpart.
-/

namespace DalvikPrepass

inductive LiteralCategory where
  | zero
  | one
  /-- 2 to 127. -/
  | posByte
  /-- -128 to -1. -/
  | byte
  /-- 128 to 32767. -/
  | posShort
  /-- -32768 to -129. -/
  | short
  /-- 32768 to 65535. -/
  | char
  | integer
  deriving DecidableEq, Repr

namespace LiteralCategory

def name : LiteralCategory → String
  | zero => "Zero"
  | one => "One"
  | posByte => "PosByte"
  | byte => "Byte"
  | posShort => "PosShort"
  | short => "Short"
  | char => "Char"
  | integer => "Integer"

/-- Place in the order from narrow to wide. -/
def rank : LiteralCategory → Nat
  | zero => 0
  | one => 1
  | posByte => 2
  | byte => 3
  | posShort => 4
  | short => 5
  | char => 6
  | integer => 7

instance : Ord LiteralCategory where
  compare left right := compare left.rank right.rank

def classify (literal : Int32) : LiteralCategory :=
  let value := literal.toInt
  if value < -32768 then integer
  else if value < -128 then short
  else if value < 0 then byte
  else if value = 0 then zero
  else if value = 1 then one
  else if value < 128 then posByte
  else if value < 32768 then posShort
  else if value < 65536 then char
  else integer

end LiteralCategory

end DalvikPrepass
