import DalvikPrepass.External.Pattern.Excerpt

/-!
# Faults of written patterns

A text that is no pattern has a first fault, with a place in the text and for some
kinds of fault a second place, where what is said twice was said first.
-/

namespace DalvikPrepass

inductive PatternFault where
  | assertionInSet
  | reversedRange
  | rangeOfSets
  | unclosedSet
  | invalidNumber
  | emptyCode
  | invalidCode
  | invalidCodeDigit
  | unfinishedEscape
  | unknownEscape
  | danglingFlagNegation
  | duplicateFlag
  | repeatedFlagNegation
  | unfinishedFlags
  | unknownFlag
  | duplicateGroupName
  | emptyGroupName
  | invalidGroupName
  | unfinishedGroupName
  | unclosedGroup
  | unopenedGroup
  | tooDeep
  | reversedCount
  | missingCount
  | unclosedCount
  | nothingToRepeat
  | unclosedWordTest
  | unknownWordTest
  | unfinishedWordTest
  | invalidProperty
  | backreference
  | lookAround
  | unicodeNotAllowed
  | partialCharacter
  | unknownProperty
  | unknownPropertyValue
  | unavailableClass
  | unavailableCase
  /-- Every loop ends before its budget is used up. -/
  | budgetExhausted
  deriving DecidableEq, Repr

namespace PatternFault

/-- How deep the parts of a pattern may be nested. -/
def deepest : Nat := 250

def message : PatternFault → String
  | assertionInSet => "invalid escape sequence found in character class"
  | reversedRange => "invalid character class range, the start must be <= the end"
  | rangeOfSets => "invalid range boundary, must be a literal"
  | unclosedSet => "unclosed character class"
  | invalidNumber => "decimal literal invalid"
  | emptyCode => "hexadecimal literal empty"
  | invalidCode => "hexadecimal literal is not a Unicode scalar value"
  | invalidCodeDigit => "invalid hexadecimal digit"
  | unfinishedEscape => "incomplete escape sequence, reached end of pattern prematurely"
  | unknownEscape => "unrecognized escape sequence"
  | danglingFlagNegation => "dangling flag negation operator"
  | duplicateFlag => "duplicate flag"
  | repeatedFlagNegation => "flag negation operator repeated"
  | unfinishedFlags => "expected flag but got end of regex"
  | unknownFlag => "unrecognized flag"
  | duplicateGroupName => "duplicate capture group name"
  | emptyGroupName => "empty capture group name"
  | invalidGroupName => "invalid capture group character"
  | unfinishedGroupName => "unclosed capture group name"
  | unclosedGroup => "unclosed group"
  | unopenedGroup => "unopened group"
  | tooDeep =>
      "exceed the maximum number of nested parentheses/brackets (" ++ toString deepest ++ ")"
  | reversedCount => "invalid repetition count range, the start must be <= the end"
  | missingCount => "repetition quantifier expects a valid decimal"
  | unclosedCount => "unclosed counted repetition"
  | nothingToRepeat => "repetition operator missing expression"
  | unclosedWordTest =>
      "special word boundary assertion is either unclosed or contains an invalid character"
  | unknownWordTest =>
      "unrecognized special word boundary assertion, valid choices are: " ++
        "start, end, start-half or end-half"
  | unfinishedWordTest =>
      "found either the beginning of a special word boundary or a bounded repetition on a \\b " ++
        "with an opening brace, but no closing brace"
  | invalidProperty => "invalid Unicode character class"
  | backreference => "backreferences are not supported"
  | lookAround => "look-around, including look-ahead and look-behind, is not supported"
  | unicodeNotAllowed => "Unicode not allowed here"
  | partialCharacter => "pattern can match invalid UTF-8"
  | unknownProperty => "Unicode property not found"
  | unknownPropertyValue => "Unicode property value not found"
  | unavailableClass =>
      "Unicode-aware Perl class not found (make sure the unicode-perl feature is enabled)"
  | unavailableCase =>
      "Unicode-aware case insensitivity matching is not available " ++
        "(make sure the unicode-case feature is enabled)"
  | budgetExhausted => "the pattern is too long"

end PatternFault

/-- A fault with its place. -/
structure Misreading where
  fault : PatternFault
  span : Span
  /-- Where what is said twice was said first. -/
  earlier : Option Span
  deriving DecidableEq, Repr

namespace Misreading

/-- The text with the place of the fault, and what the fault is. -/
def message (text : String) (misreading : Misreading) : String :=
  "regex parse error:\n" ++
    (Excerpt.mk text (misreading.span :: misreading.earlier.toList)).shown ++
    "error: " ++ misreading.fault.message

end Misreading

/-- The result of reading a part of a pattern. -/
abbrev Reading := Except Misreading

namespace Reading

def fault {α : Type} (fault : PatternFault) (span : Span) : Reading α :=
  .error ⟨fault, span, none⟩

/-- The fault that something stands at `span` which stood at `earlier` already. -/
def repeatedAt {α : Type} (fault : PatternFault) (span earlier : Span) : Reading α :=
  .error ⟨fault, span, some earlier⟩

end Reading

end DalvikPrepass
