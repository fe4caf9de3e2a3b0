import DalvikPrepass.External.Pattern.Meaning
import DalvikPrepass.External.Pattern.Read
import DalvikPrepass.External.Pattern.Size

/-!
# Written patterns

A text is a pattern if it is a regular expression that means something, is not too
large and asks nothing about the words of all scripts.
-/

namespace DalvikPrepass

/-- Why a text is not a pattern. -/
inductive PatternError where
  | misread (text : String) (misreading : Misreading)
  | tooLarge
  /-- There is no table of the words of all scripts. -/
  | unavailableWords
  deriving DecidableEq, Repr

def PatternError.message : PatternError → String
  | misread text misreading => misreading.message text
  | tooLarge =>
      "Compiled regex exceeds size limit of " ++ toString Pattern.sizeLimit ++ " bytes."
  | unavailableWords => "error building NFA"

namespace Pattern

/-- Whether the pattern asks about the words of all scripts. -/
def needsWords : Pattern → Bool
  | assertion (.anyWord _) => true
  | empty | assertion _ | one _ => false
  | sequence first second => first.needsWords || second.needsWords
  | choice left right => left.needsWords || right.needsWords
  | repeated pattern .. => pattern.needsWords
  | group pattern => pattern.needsWords

/-- Refuses patterns that no machine can be built for. -/
def check (pattern : Pattern) : Except PatternError Pattern :=
  if sizeLimit < pattern.forwardSize then .error .tooLarge
  else if pattern.needsWords then .error .unavailableWords
  else if sizeLimit < pattern.backwardSize then .error .tooLarge
  else .ok pattern

/-- The pattern that a text writes. -/
def ofString (text : String) : Except PatternError Pattern :=
  match Expression.ofString text >>= Expression.meaning .initial with
  | .error misreading => .error (.misread text misreading)
  | .ok (pattern, _) => pattern.check

end Pattern

end DalvikPrepass
