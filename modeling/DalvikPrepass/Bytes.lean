import DalvikPrepass.ReadError

/-!
# Byte strings

Little-endian words, runs of equally long records, and a cursor that knows how
far into the data it stands.  A cursor is a position together with the bytes
from there on, so a reader never looks back and its errors can still say where
they happened.
-/

namespace DalvikPrepass

abbrev Bytes := List UInt8

namespace Bytes

/-- The two bytes of a word, low byte first. -/
def ofWord16 (word : UInt16) : Bytes :=
  [word.toUInt8, (word / 0x100).toUInt8]

/-- The four bytes of a word, lowest byte first. -/
def ofWord32 (word : UInt32) : Bytes :=
  ofWord16 word.toUInt16 ++ ofWord16 (word / 0x10000).toUInt16

/-- The little-endian word in the first two bytes. -/
def word16 : Bytes → UInt16
  | low :: high :: _ => low.toUInt16 + 0x100 * high.toUInt16
  | _ => 0

/-- The little-endian word in the first four bytes. -/
def word32 (bytes : Bytes) : UInt32 :=
  (word16 bytes).toUInt32 + 0x10000 * (word16 (bytes.drop 2)).toUInt32

/-- `count` records of `size` bytes each, after those in `earlier`, which holds
the last one first. -/
def recordsFrom {α : Type} (size : Nat) (read : Bytes → α) : Nat → Bytes → List α → List α
  | 0, _, earlier => earlier.reverse
  | count + 1, bytes, earlier =>
      recordsFrom size read count (bytes.drop size) (read bytes :: earlier)

/-- The first `count` records of `size` bytes each; `read` is given the bytes
from the record's start on and looks at its own `size` bytes only. -/
def records {α : Type} (size : Nat) (read : Bytes → α) (count : Nat) (bytes : Bytes) : List α :=
  recordsFrom size read count bytes []

end Bytes

/-- A place in a byte string: the bytes still to be read and how many were read
before them. -/
structure Cursor where
  rest : Bytes
  position : Nat
  deriving DecidableEq, Repr

namespace Cursor

/-- A place past the end of the data is kept as it is, with nothing to read. -/
def ofOffset (data : Bytes) (offset : Nat) : Cursor :=
  ⟨data.drop offset, offset⟩

def skip (cursor : Cursor) (count : Nat) : Cursor :=
  ⟨cursor.rest.drop count, cursor.position + count⟩

/-- The next `count` bytes, which are the section named `part`. -/
def take (cursor : Cursor) (count : Nat) (part : String) : Except ReadError (Bytes × Cursor) :=
  if count ≤ cursor.rest.length then
    .ok (cursor.rest.take count, cursor.skip count)
  else
    .error (.truncated part cursor.position)

end Cursor

end DalvikPrepass
