import DalvikPrepass.External.Pattern.Expression
import DalvikPrepass.External.Pattern.Fault

/-!
# What regular expressions mean

The parts of an expression become patterns.  Flags decide how: with Unicode
switched on, characters are those of all scripts, but there are no tables of
letter cases, properties or words for them, so that what needs one is a fault.
With Unicode switched off the cases and sets are those of ASCII, and a part may
not fit pieces of a character's encoding.
-/

namespace DalvikPrepass

/-- Which flags are on. -/
structure Switches where
  caseless : Bool
  multiline : Bool
  dotAll : Bool
  unicode : Bool
  carriageReturns : Bool
  deriving DecidableEq, Repr

namespace Switches

/-- How the flags are before the first change. -/
def initial : Switches :=
  ⟨false, false, false, true, false⟩

def change (switches : Switches) : Flag → (on : Bool) → Switches
  | .caseless, on => { switches with caseless := on }
  | .multiline, on => { switches with multiline := on }
  | .dotAll, on => { switches with dotAll := on }
  | .unicode, on => { switches with unicode := on }
  | .carriageReturns, on => { switches with carriageReturns := on }
  | .shortest, _ | .spaced, _ => switches

def changeAll (switches : Switches) (changes : FlagChanges) : Switches :=
  changes.foldl (fun switches (flag, on) => switches.change flag on) switches

def lineEnds (switches : Switches) : LineEnds :=
  if switches.carriageReturns then .either else .lineFeed

/-- The characters that a dot fits. -/
def dotSet (switches : Switches) : CharSet :=
  if switches.dotAll then .all
  else if switches.carriageReturns then
    .complement (.union (.singleton '\n') (.singleton '\r'))
  else .complement (.singleton '\n')

end Switches

namespace Literal

/-- The character, unless it is a byte inside of a character's encoding. -/
def wholeChar (switches : Switches) (literal : Literal) : Reading Char :=
  if !switches.unicode && literal.asByte && 0x7f < literal.char.toNat then
    .fault .partialCharacter literal.span
  else .ok literal.char

/-- The character as a member of a set, which without Unicode has ASCII alone. -/
def memberChar (switches : Switches) (literal : Literal) : Reading Char := do
  let char ← literal.wholeChar switches
  if !switches.unicode && 0x7f < char.toNat then
    .fault .unicodeNotAllowed literal.span
  return char

end Literal

namespace Member

/-- What counts in the name of a property: neither case, nor `is` in front, nor
blanks, underscores and hyphens. -/
def propertyKey (name : String) : String :=
  let chars := match name.toList with
    | first :: second :: rest =>
        if first.toLower = 'i' && second.toLower = 's' then rest else first :: second :: rest
    | chars => chars
  String.ofList ((chars.filter fun char =>
    char.toNat < 0x80 && char ≠ ' ' && char ≠ '_' && char ≠ '-').map Char.toLower)

/-- No property is known.  A name alone that can only be a category's is looked for
among the values of properties. -/
def propertyFault (name : String) : PatternFault :=
  let hasValue := name.toList.any fun char => char = '=' || char = ':'
  if !hasValue && ["cf", "sc", "lc"].contains (propertyKey name) then .unknownPropertyValue
  else .unknownProperty

/-- The characters that a member fits, in a set or outside, where it is not a
character itself. -/
def setMeaning (switches : Switches) : Member → Reading CharSet
  | literal value => do return .singleton (← value.memberChar switches)
  | letterSet span set negated =>
      if switches.unicode then .fault .unavailableClass span
      else if negated then .fault .partialCharacter span
      else .ok set
  | property span name =>
      .fault (if switches.unicode then propertyFault name else .unicodeNotAllowed) span

/-- The characters that a member outside of brackets fits. -/
def meaning (switches : Switches) : Member → Reading CharSet
  | literal value => do
      let char ← value.wholeChar switches
      if !switches.caseless then
        return .singleton char
      else if switches.unicode then
        .fault .unavailableCase value.span
      else
        return .eitherCase (.singleton char)
  | other => other.setMeaning switches

end Member

namespace SetExpression

def isCharacters : SetExpression → Bool
  | member (.literal _) | range .. => true
  | _ => false

/-- Whether there are characters and ranges in the list itself, not in sets that it
lists. -/
def listsCharacters : SetExpression → Bool
  | union _ items => items.any isCharacters
  | other => other.isCharacters

/-- The set in either case, if case does not count, for what is written at `span`. -/
def inCase (switches : Switches) (span : Span) (written : SetExpression) (set : CharSet) :
    Reading CharSet :=
  if !switches.caseless then .ok set
  else if !switches.unicode then .ok set.eitherCase
  else if written.listsCharacters then .fault .unavailableCase span
  else .ok set

/-- The complement of a set that is negated at `span`. -/
def negatedIf (switches : Switches) (span : Span) (negated : Bool) (set : CharSet) :
    Reading CharSet :=
  if !negated then .ok set
  else if switches.unicode then .ok set.complement
  else .fault .partialCharacter span

mutual

def meaning (switches : Switches) : SetExpression → Reading CharSet
  | empty _ => .ok .empty
  | member value => value.setMeaning switches
  | range _ first last => do
      let first ← first.memberChar switches
      return .range first (← last.memberChar switches)
  | named span set negated =>
      if !switches.caseless then negatedIf switches span negated set
      else if switches.unicode then .fault .unavailableCase span
      else negatedIf switches span negated set.eitherCase
  | brackets span negated content => do
      let set ← inCase switches span content (← meaning switches content)
      negatedIf switches span negated set
  | union _ items => unionMeaning switches items
  | operation _ combining left right => do
      let leftSet ← meaning switches left
      let rightSet ← meaning switches right
      let rightSet ← inCase switches right.span right rightSet
      return combining.apply (← inCase switches left.span left leftSet) rightSet

/-- The characters in one of the sets. -/
def unionMeaning (switches : Switches) : List SetExpression → Reading CharSet
  | [] => .ok .empty
  | item :: items => do
      let set ← meaning switches item
      return set.union (← unionMeaning switches items)

end

end SetExpression

def PlaceTest.meaning (switches : Switches) : PlaceTest → Assertion
  | textStart => .textStart
  | textEnd => .textEnd
  | lineStart => if switches.multiline then .lineStart switches.lineEnds else .textStart
  | lineEnd => if switches.multiline then .lineEnd switches.lineEnds else .textEnd
  | word test => if switches.unicode then .anyWord test else .word test

namespace Pattern

/-- Whether the pattern fits empty pieces at most. -/
def isEmptyOnly : Pattern → Bool
  | empty | assertion _ => true
  | one _ => false
  | sequence first second => first.isEmptyOnly && second.isEmptyOnly
  | choice left right => left.isEmptyOnly && right.isEmptyOnly
  | repeated pattern .. => pattern.isEmptyOnly
  | group pattern => pattern.isEmptyOnly

/-- One pattern after the other; where one of them is empty, the other alone. -/
def andThen : Pattern → Pattern → Pattern
  | empty, second => second
  | first, empty => first
  | first, second => sequence first second

/-- The set of a pattern that fits one character. -/
def oneOf? : Pattern → Option CharSet
  | one set => some set
  | _ => none

/-- One of the alternatives, of which the first one is `first`.  Where each fits one
character, they are a set. -/
def ofAlternatives (first : Pattern) (others : List Pattern) : Pattern :=
  match (first :: others).mapM oneOf? with
  | some sets => one (sets.foldl .union .empty)
  | none => others.foldl choice first

/-- The pattern so many times in a row.  To repeat a pattern that is empty anyway
makes no difference. -/
def times (pattern : Pattern) (least : Nat) (most : Option Nat) : Pattern :=
  let once := pattern.isEmptyOnly
  let least := if once then min least 1 else least
  let most := if once then some (min (most.getD 1) 1) else most
  if least = 0 && most = some 0 then empty
  else if least = 1 && most = some 1 then pattern
  else repeated pattern least most

end Pattern

namespace Expression

mutual

/-- The pattern that an expression writes where the flags are as in `switches`, and
how they are behind it. -/
def meaning (switches : Switches) : Expression → Reading (Pattern × Switches)
  | empty _ => .ok (.empty, switches)
  | flags _ changes => .ok (.empty, switches.changeAll changes)
  | member value => do return (.one (← value.meaning switches), switches)
  | dot span =>
      if switches.unicode then .ok (.one switches.dotSet, switches)
      else .fault .partialCharacter span
  | place _ test => .ok (.assertion (test.meaning switches), switches)
  | set value => do return (.one (← value.meaning switches), switches)
  | repetition _ body least most => do
      let (pattern, switches) ← meaning switches body
      return (pattern.times least most, switches)
  | group _ (.plain changes) body => do
      let (pattern, _) ← meaning (switches.changeAll changes) body
      return (pattern, switches)
  | group _ .numbered body => do
      let (pattern, _) ← meaning switches body
      return (.group pattern, switches)
  | alternatives _ parts => do
      let (patterns, switches) ← meanings switches parts
      match patterns with
      | [] => return (.empty, switches)
      | first :: others => return (.ofAlternatives first others, switches)
  | sequence _ parts => do
      let (patterns, switches) ← meanings switches parts
      return (patterns.foldr .andThen .empty, switches)

/-- The patterns of several expressions, each with the flags as they are behind the
one before. -/
def meanings (switches : Switches) : List Expression → Reading (List Pattern × Switches)
  | [] => .ok ([], switches)
  | part :: parts => do
      let (pattern, switches) ← meaning switches part
      let (patterns, switches) ← meanings switches parts
      return (pattern :: patterns, switches)

end

end Expression

end DalvikPrepass
