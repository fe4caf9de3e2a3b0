import DalvikPrepass.External.CharSet.Named
import DalvikPrepass.External.Pattern.Expression
import DalvikPrepass.External.Pattern.Scan
import DalvikPrepass.Numeral

/-!
# Escape sequences in patterns

A backslash takes its meaning from the character after it: a letter stands for
some character, set or place, most other characters for themselves.
-/

namespace DalvikPrepass

def WordTest.ofName : (name : String) → Option WordTest
  | "start" => some start
  | "end" => some stop
  | "start-half" => some startHalf
  | "end-half" => some stopHalf
  | _ => none

namespace Escape

/-- Whether a backslash leaves the character what it is. -/
def keeps (char : Char) : Bool :=
  char.toNat < 0x80 && !char.isAlphanum && char ≠ '<' && char ≠ '>'

/-- The characters with a letter of their own. -/
def charOfLetter : Char → Option Char
  | 'a' => some '\x07'
  | 'f' => some '\x0c'
  | 't' => some '\t'
  | 'n' => some '\n'
  | 'r' => some '\r'
  | 'v' => some '\x0b'
  | _ => none

/-- The sets with a letter of their own; the capital one stands for what is not in
the set. -/
def setOfLetter : Char → Option (CharSet × Bool)
  | 'd' => some (.digits, false)
  | 'D' => some (.digits, true)
  | 's' => some (.space, false)
  | 'S' => some (.space, true)
  | 'w' => some (.word, false)
  | 'W' => some (.word, true)
  | _ => none

def placeOfLetter : Char → Option PlaceTest
  | 'A' => some .textStart
  | 'z' => some .textEnd
  | 'b' => some (.word .boundary)
  | 'B' => some (.word .noBoundary)
  | '<' => some (.word .start)
  | '>' => some (.word .stop)
  | _ => none

/-- How many digits the code of a character has after this letter, where there are
no braces around it. -/
def codeLength : Char → Option Nat
  | 'x' => some 2
  | 'u' => some 4
  | 'U' => some 8
  | _ => none

def isCodeDigit (char : Char) : Bool :=
  (Numeral.digitValue char).isSome

/-- So many digits from the front, after those in `digits`, last one first. -/
def readDigits (digits : List Char) : (count : Nat) → Scan → Reading (List Char × Scan)
  | 0, scan => .ok (digits.reverse, scan)
  | count + 1, scan =>
      match scan.rest with
      | [] => .fault .unfinishedEscape scan.here
      | char :: _ =>
          if isCodeDigit char then readDigits (char :: digits) count scan.step
          else .fault .invalidCodeDigit scan.frontSpan

/-- A character with its code in braces, of which the opening one is at the front.
The escape sequence starts at `start`. -/
def readBracedCode (start : Position) (scan : Scan) : Reading (Literal × Scan) :=
  let (digits, after) := scan.step.takeWhile isCodeDigit
  match after.rest with
  | [] => .fault .unfinishedEscape (after.since scan.position)
  | '\x7d' :: _ =>
      let next := after.step
      if digits.isEmpty then .fault .emptyCode (next.since scan.position)
      else match Numeral.charOfCode digits with
        | some char => .ok (⟨next.since start, char, false⟩, next)
        | none => .fault .invalidCode (after.since scan.advance.position)
  | _ => .fault .invalidCodeDigit after.frontSpan

/-- A character with its code after the letter at the front.  Two digits are the
value of a byte. -/
def readCode (start : Position) (length : Nat) (scan : Scan) : Reading (Literal × Scan) :=
  let scan := scan.step
  match scan.rest with
  | [] => .fault .unfinishedEscape scan.here
  | '\x7b' :: _ => readBracedCode start scan
  | _ => do
      let (digits, after) ← readDigits [] length scan
      match Numeral.charOfCode digits with
      | some char => return (⟨after.since start, char, length = 2⟩, after)
      | none => .fault .invalidCode (after.since scan.position)

/-- A property, which has one letter as its name or a name in braces, after the
letter at the front. -/
def readProperty (start : Position) (scan : Scan) : Reading (Member × Scan) :=
  let scan := scan.step
  match scan.rest with
  | [] => .fault .unfinishedEscape scan.here
  | '\\' :: _ => .fault .invalidProperty scan.frontSpan
  | '\x7b' :: _ =>
      let (name, after) := scan.step.takeWhile (· ≠ '\x7d')
      if after.rest.isEmpty then .fault .unfinishedEscape after.here
      else
        let next := after.advance
        .ok (.property (next.since start) (String.ofList name), next)
  | char :: _ =>
      let next := scan.step
      .ok (.property (next.since start) (String.ofList [char]), next)

/-- The name in braces of what is asked about words, after `\b`, which starts at
`start`.  A brace before anything else than a name belongs to a repetition. -/
def readWordTest (start : Position) (scan : Scan) : Reading (WordTest × Scan) :=
  let isNamePart (char : Char) : Bool := char.isAlpha || char = '-'
  let inside := scan.step
  match inside.rest with
  | [] => .fault .unfinishedWordTest (inside.since start)
  | char :: _ =>
      if isNamePart char then
        let (name, after) := inside.takeWhile isNamePart
        if after.startsWith ['\x7d'] then
          match WordTest.ofName (String.ofList name) with
          | some test => .ok (test, after.advance)
          | none => .fault .unknownWordTest (after.since inside.position)
        else .fault .unclosedWordTest (after.since scan.position)
      else .ok (.boundary, scan)

/-- The escape sequence that ends with the character at the front, which is neither a
code nor a property; only `\b` may go on. -/
def readLetter (start : Position) (char : Char) (scan : Scan) : Reading (Escape × Scan) :=
  let after := scan.advance
  let span := after.since start
  if keeps char then .ok (.member (.literal ⟨span, char, false⟩), after)
  else match charOfLetter char, setOfLetter char, placeOfLetter char with
    | some char, _, _ => .ok (.member (.literal ⟨span, char, false⟩), after)
    | _, some (set, negated), _ => .ok (.member (.letterSet span set negated), after)
    | _, _, some test => do
        if char = 'b' && after.startsWith ['\x7b'] then
          let (test, next) ← readWordTest start after
          return (.place (next.since start) (.word test), next)
        else return (.place span test, after)
    | none, none, none => .fault .unknownEscape span

/-- The escape sequence whose backslash is at the front, and the scan after it. -/
def read (scan : Scan) : Reading (Escape × Scan) :=
  let start := scan.position
  let scan := scan.advance
  match scan.rest with
  | [] => .fault .unfinishedEscape (scan.since start)
  | char :: _ =>
      if char.isDigit then .fault .backreference (scan.advance.since start)
      else if char = 'p' || char = 'P' then do
        let (value, after) ← readProperty start scan
        return (.member value, after)
      else match codeLength char with
        | some length => do
            let (value, after) ← readCode start length scan
            return (.member (.literal value), after)
        | none => readLetter start char scan

end Escape

end DalvikPrepass
