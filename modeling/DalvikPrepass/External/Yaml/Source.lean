/-!
# Text to be scanned

The characters still to be read, with the line and the column at which they
start.  A carriage return and a line feed after it are one line break.

The modules on YAML stand for the library that reads the text of a method
description.  It is proved that they come to an end; nothing else is, and no result
on the pre-pass rests on them.
-/

namespace DalvikPrepass.Yaml

/-- What is wrong with a text. -/
inductive Error where
  | controlCharacter
  | unexpectedCharacter
  | unsupported (construct : String)
  | missingColon
  | sequenceEntryNotAllowed
  | mappingKeyNotAllowed
  | mappingValueNotAllowed
  | colonInPlainScalar
  | tabInIndentation
  | unclosedQuote
  | documentMarkerInQuote
  | unknownEscape
  | invalidEscapeCode
  | missingContent
  | missingKey
  | missingDash
  | missingSeparator
  | contentAfterEnd
  | noContent
  /-- Every loop ends before its budget is used up. -/
  | budgetExhausted
  deriving DecidableEq, Repr

def Error.message : Error → String
  | controlCharacter => "control characters are not allowed"
  | unexpectedCharacter => "no token starts with this character"
  | unsupported construct => construct ++ " are not supported"
  | missingColon => "a key has no ':' after it"
  | sequenceEntryNotAllowed => "a sequence entry is not allowed here"
  | mappingKeyNotAllowed => "a mapping key is not allowed here"
  | mappingValueNotAllowed => "a mapping value is not allowed here"
  | colonInPlainScalar => "a plain scalar may not hold this ':'"
  | tabInIndentation => "a tab may not stand in the indentation"
  | unclosedQuote => "a quoted scalar is not closed"
  | documentMarkerInQuote => "a document marker stands inside a quoted scalar"
  | unknownEscape => "unknown escape sequence"
  | invalidEscapeCode => "invalid code in an escape sequence"
  | missingContent => "a value is missing"
  | missingKey => "a key is missing"
  | missingDash => "a '-' is missing"
  | missingSeparator => "a ',' or a closing bracket is missing"
  | contentAfterEnd => "there is more than one value"
  | noContent => "there is no value"
  | budgetExhausted => "the text is too deeply nested"

def isBlank (char : Char) : Bool :=
  char = ' ' || char = '\t'

def isBreak (char : Char) : Bool :=
  char = '\n' || char = '\r' || char = '\u0085' || char = '\u2028' || char = '\u2029'

/-- The characters that a text may hold at all. -/
def isAllowed (char : Char) : Bool :=
  let code := char.toNat
  code = 0x09 || code = 0x0a || code = 0x0d || (0x20 ≤ code && code ≤ 0x7e) ||
    code = 0x85 || (0xa0 ≤ code && code ≤ 0xfffd) || 0x10000 ≤ code

/-- A line break as it counts in a scalar: a line feed, unless it is a Unicode
line or paragraph separator. -/
def normalBreak (char : Char) : Char :=
  if char = '\u2028' || char = '\u2029' then char else '\n'

structure Source where
  rest : List Char
  line : Nat
  column : Nat
  /-- Number of bytes already read. -/
  index : Nat
  deriving Repr

/-- Number of bytes that characters take in UTF-8. -/
def byteCount (chars : List Char) : Nat :=
  (String.ofList chars).utf8ByteSize

namespace Source

/-- The text from its start. -/
def ofString (text : String) : Source :=
  ⟨text.toList, 0, 0, 0⟩

/-- Whether no character is left that many places further on, or a blank or a
line break stands there. -/
def endsWordAt (source : Source) (distance : Nat) : Bool :=
  match source.rest[distance]? with
  | none => true
  | some char => isBlank char || isBreak char

/-- Reads characters of one line. -/
def advance (source : Source) (count : Nat) : Source :=
  { source with
    rest := source.rest.drop count
    column := source.column + count
    index := source.index + byteCount (source.rest.take count) }

/-- Reads the line break at the front. -/
def advanceLine (source : Source) : Source :=
  let count := match source.rest with
    | '\r' :: '\n' :: _ => 2
    | _ => 1
  { rest := source.rest.drop count
    line := source.line + 1
    column := 0
    index := source.index + byteCount (source.rest.take count) }

/-- Whether a line starts here with this marker of three characters, alone. -/
def startsWithMarker (source : Source) (marker : List Char) : Bool :=
  source.column = 0 && source.rest.take 3 = marker && source.endsWordAt 3

/-- Whether a document is said to start here. -/
def atDocumentStart (source : Source) : Bool :=
  source.startsWithMarker ['-', '-', '-']

/-- Whether a document is said to end here. -/
def atDocumentEnd (source : Source) : Bool :=
  source.startsWithMarker ['.', '.', '.']

def atDocumentMarker (source : Source) : Bool :=
  source.atDocumentStart || source.atDocumentEnd

/-- Reads the rest of the line, without its line break. -/
def skipLine (source : Source) : Source :=
  source.advance (source.rest.takeWhile fun char => !isBreak char).length

@[simp]
theorem length_rest_advance (source : Source) (count : Nat) :
    (source.advance count).rest.length = source.rest.length - count := by
  simp [advance]

/-- A line break takes at least one character. -/
theorem length_rest_advanceLine_le (source : Source) :
    source.advanceLine.rest.length ≤ source.rest.length - 1 := by
  unfold advanceLine
  split <;> simp only [List.length_drop] <;> omega

theorem length_rest_skipLine_lt {source : Source} {char : Char} {rest : List Char}
    (hrest : source.rest = char :: rest) (hchar : isBreak char = false) :
    source.skipLine.rest.length < source.rest.length := by
  simp only [skipLine, length_rest_advance, hrest, List.takeWhile_cons, hchar, Bool.not_false,
    if_true, List.length_cons]
  omega

end Source

end DalvikPrepass.Yaml
