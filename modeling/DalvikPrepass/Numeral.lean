/-!
# Numerals

Addresses and offsets are shown in hexadecimal with an `0x` mark, sometimes
filled with zeros to a fixed number of digits.  Branch offsets carry their sign
even when it is positive.  Numbers are read in any base up to 16.
-/

namespace DalvikPrepass.Numeral

/-- Lower-case hexadecimal digits, most significant first, with no leading
zero. -/
def hexDigits (value : Nat) : List Char :=
  Nat.toDigits 16 value

def hex (value : Nat) : String :=
  "0x" ++ String.ofList (hexDigits value)

/-- Hexadecimal with at least `digits` digits. -/
def hexFilled (digits value : Nat) : String :=
  let shown := hexDigits value
  "0x" ++ String.ofList (List.replicate (digits - shown.length) '0' ++ shown)

/-- Decimal with an explicit sign; zero counts as positive. -/
def signed (value : Int) : String :=
  if value < 0 then toString value else "+" ++ toString value

/-- `text` followed by as many spaces as it needs to fill `width` columns. -/
def padRight (width : Nat) (text : String) : String :=
  text ++ String.ofList (List.replicate (width - text.length) ' ')

/-- The value of a digit, for bases up to 16. -/
def digitValue (char : Char) : Option Nat :=
  if '0' ≤ char ∧ char ≤ '9' then some (char.toNat - '0'.toNat)
  else if 'a' ≤ char ∧ char ≤ 'f' then some (char.toNat - 'a'.toNat + 10)
  else if 'A' ≤ char ∧ char ≤ 'F' then some (char.toNat - 'A'.toNat + 10)
  else none

/-- The number written by one or more digits below `base`. -/
def digitsValue (base : Nat) : List Char → Option Nat
  | [] => none
  | chars => chars.foldlM (fun value char => do
      let digit ← digitValue char
      if digit < base then some (value * base + digit) else none) 0

/-- The character with the code written in hexadecimal digits. -/
def charOfCode (digits : List Char) : Option Char := do
  let code ← digitsValue 16 digits
  if code.isValidChar then some (Char.ofNat code) else none

/-- The character with the code written in exactly `count` hexadecimal digits. -/
def codedChar (count : Nat) (chars : List Char) : Option Char :=
  if chars.length < count then none else charOfCode (chars.take count)

/-- Takes a plus sign off the front. -/
def withoutPlus : List Char → List Char
  | '+' :: digits => digits
  | digits => digits

/-- The integer written by decimal digits with an optional sign. -/
def decimalInt (chars : List Char) : Option Int :=
  match chars with
  | '-' :: digits => (digitsValue 10 digits).map fun value => -(value : Int)
  | _ => (digitsValue 10 (withoutPlus chars)).map fun value => (value : Int)

end DalvikPrepass.Numeral
