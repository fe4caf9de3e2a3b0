import DalvikPrepass.External.Pattern.Scan
import DalvikPrepass.Numeral

/-!
# Repetitions

How often a part is repeated is written behind it: as one mark or as numbers in
braces.  A question mark after it asks for as few repetitions as possible, which
makes no difference to whether a pattern fits.
-/

namespace DalvikPrepass

structure Repetition where
  least : Nat
  /-- Without a limit the part can be repeated any number of times. -/
  most : Option Nat
  deriving DecidableEq, Repr

namespace Repetition

/-- The repetitions that are written as one mark. -/
def ofMark : Char → Option Repetition
  | '?' => some ⟨0, some 1⟩
  | '*' => some ⟨0, none⟩
  | '+' => some ⟨1, none⟩
  | _ => none

/-- Whether a limit is not below the number it goes with. -/
def isOrdered (repetition : Repetition) : Bool :=
  repetition.most.all (repetition.least ≤ ·)

/-- Passes over the question mark that may stand behind a repetition. -/
def skipShortest (scan : Scan) : Scan :=
  if scan.startsWith ['?'] then scan.advance else scan

/-- Numbers have 32 bits. -/
def largest : Nat := 4294967295

/-- The number at the front with blanks around it, or what is wrong with it, and the
scan after it. -/
def readNumber (scan : Scan) : Reading Nat × Scan :=
  let scan := scan.skipBlanks
  let (digits, after) := scan.takeWhile Char.isDigit
  let span := after.since scan.position
  let number : Reading Nat :=
    match Numeral.digitsValue 10 digits with
    | none => .fault .missingCount span
    | some value => if value ≤ largest then .ok value else .fault .invalidNumber span
  (number, after.skipBlanks)

/-- The numbers in braces, of which the opening one is at the front. -/
def readNumbers (scan : Scan) : Reading (Repetition × Scan) := do
  let unclosed {α : Type} (after : Scan) : Reading α :=
    .fault .unclosedCount (after.since scan.position)
  let inside := scan.step
  if inside.rest.isEmpty then
    unclosed inside
  let (least, after) := readNumber inside
  match after.rest with
  | [] => unclosed after
  | ',' :: _ =>
      let inside := after.step
      match inside.rest with
      | [] => unclosed inside
      | '\x7d' :: _ => return (⟨← least, none⟩, inside)
      | _ =>
          let least ← least
          let (most, after) := readNumber inside
          return (⟨least, some (← most)⟩, after)
  | _ =>
      let count ← least
      return (⟨count, some count⟩, after)

/-- The repetition whose opening brace is at the front, and the scan after it. -/
def readBraces (scan : Scan) : Reading (Repetition × Scan) := do
  let (repetition, after) ← readNumbers scan
  if !after.startsWith ['\x7d'] then
    .fault .unclosedCount (after.since scan.position)
  let after := skipShortest after.step
  if !repetition.isOrdered then
    .fault .reversedCount (after.since scan.position)
  return (repetition, after)

/-- The repetition at the front and the scan after it, if there is one. -/
def read? (scan : Scan) : Option (Reading (Repetition × Scan)) :=
  match scan.rest with
  | [] => none
  | '\x7b' :: _ => some (readBraces scan)
  | char :: _ => (ofMark char).map fun repetition => .ok (repetition, skipShortest scan.advance)

end Repetition

end DalvikPrepass
