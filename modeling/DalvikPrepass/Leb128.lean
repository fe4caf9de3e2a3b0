import DalvikPrepass.Bytes

/-!
# Variable-length integers

A 32-bit integer is written in base 128, least significant digit first, one
digit to a byte; every byte but the last has its top bit set.  Signed values are
in two's complement, and bit 6 of the last byte is their sign.  At most five
bytes belong to one value.  Five digits can say more than 32 bits hold, and what
is too high is dropped, so all arithmetic here is modulo `2 ^ 32`.
-/

namespace DalvikPrepass.Leb128

/-- No value is longer than this many bytes. -/
def maxBytes : Nat := 5

/-- The digit that a byte holds. -/
def digit (byte : UInt8) : UInt32 :=
  (byte % 0x80).toUInt32

/-- The most significant digit of a signed value: from 64 on it counts as
negative. -/
def signedDigit (byte : UInt8) : UInt32 :=
  if digit byte < 0x40 then digit byte else digit byte - 0x80

/-- The value at the front of the list, of at most `budget` bytes, and the
number of its bytes; `last` is the worth of its final byte. -/
def decodeWith (last : UInt8 → UInt32) : (budget : Nat) → Bytes → Option (UInt32 × Nat)
  | 0, _ => none
  | _, [] => none
  | budget + 1, byte :: rest =>
      if byte < 0x80 then
        some (last byte, 1)
      else
        (decodeWith last budget rest).map fun (high, size) =>
          (digit byte + 0x80 * high, size + 1)

/-- The unsigned value at the front of the list and the number of its bytes;
`none` if the list ends inside it or it goes on after five bytes. -/
def decodeUnsigned (bytes : Bytes) : Option (UInt32 × Nat) :=
  decodeWith digit maxBytes bytes

/-- As `decodeUnsigned`, for a signed value. -/
def decodeSigned (bytes : Bytes) : Option (Int32 × Nat) :=
  (decodeWith signedDigit maxBytes bytes).map fun (value, size) => (value.toInt32, size)

/-- The base-128 digits of a natural number, as few as it has. -/
def encodeNat (value : Nat) : Bytes :=
  if value < 128 then
    [value.toUInt8]
  else
    (value % 128 + 128).toUInt8 :: encodeNat (value / 128)
termination_by value
decreasing_by omega

/-- The base-128 digits of an integer, as few as still show its sign. -/
def encodeInt (value : Int) : Bytes :=
  if -64 ≤ value ∧ value < 64 then
    [(value % 128).toNat.toUInt8]
  else
    ((value % 128).toNat + 128).toUInt8 :: encodeInt (value / 128)
termination_by value.natAbs
decreasing_by omega

/-- The shortest bytes that `decodeUnsigned` reads as `value`. -/
def encodeUnsigned (value : UInt32) : Bytes :=
  encodeNat value.toNat

/-- The shortest bytes that `decodeSigned` reads as `value`. -/
def encodeSigned (value : Int32) : Bytes :=
  encodeInt value.toInt

end DalvikPrepass.Leb128
