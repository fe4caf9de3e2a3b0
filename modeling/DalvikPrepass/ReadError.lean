import DalvikPrepass.Numeral

/-!
# Reading failures

Why a byte string is not a method body.  Offsets count bytes, from the start of
the data or, inside a handler list, from the start of that list.
-/

namespace DalvikPrepass

inductive ReadError where
  /-- The reading was to start at `offset`, past the `length` bytes there are. -/
  | offsetOutOfBounds (offset length : Nat)
  /-- No variable-length integer starts at `offset`. -/
  | invalidLeb128 (offset : Nat)
  /-- The section named `part` starts at `offset` and does not fit. -/
  | truncated (part : String) (offset : Nat)
  deriving DecidableEq, Repr

namespace ReadError

open Numeral

def message : ReadError → String
  | offsetOutOfBounds offset length =>
      "Offset " ++ hex offset ++ " out of bounds (data size: " ++ hex length ++ ")"
  | invalidLeb128 offset => "Invalid LEB128 encoding at offset " ++ hex offset
  | truncated part offset => "Truncated " ++ part ++ " at offset " ++ hex offset

end ReadError

end DalvikPrepass
