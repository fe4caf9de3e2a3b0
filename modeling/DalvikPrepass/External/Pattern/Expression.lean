import DalvikPrepass.External.CharSet
import DalvikPrepass.External.Pattern.Basic
import DalvikPrepass.External.Pattern.Span

/-!
# Regular expressions

A pattern is written as a regular expression.  What is written is kept as it
stands, each part with its place in the text: what the parts mean depends on flags
that are set among them.
-/

namespace DalvikPrepass

/-- What can be switched on and off inside an expression. -/
inductive Flag where
  /-- Upper and lower case count as the same. -/
  | caseless
  /-- `^` and `$` fit at every line. -/
  | multiline
  /-- A dot fits the end of a line too. -/
  | dotAll
  /-- Repetitions are as short as they can be.  Whether something fits is the same. -/
  | shortest
  /-- Characters are those of all scripts. -/
  | unicode
  /-- Carriage returns end lines as well. -/
  | carriageReturns
  /-- White space and comments are passed over. -/
  | spaced
  deriving DecidableEq, Repr

def Flag.ofChar : Char → Option Flag
  | 'i' => some caseless
  | 'm' => some multiline
  | 's' => some dotAll
  | 'U' => some shortest
  | 'u' => some unicode
  | 'R' => some carriageReturns
  | 'x' => some spaced
  | _ => none

/-- Flags and whether they are switched on, in the order in which they are given. -/
abbrev FlagChanges := List (Flag × Bool)

/-- A character that stands for itself. -/
structure Literal where
  span : Span
  char : Char
  /-- Whether it is written as the value of a byte. -/
  asByte : Bool
  deriving DecidableEq, Repr

/-- What fits one character, inside of a set or outside. -/
inductive Member where
  | literal (literal : Literal)
  /-- One of the sets that are written with a letter. -/
  | letterSet (span : Span) (set : CharSet) (negated : Bool)
  /-- The characters with a property, of which the name is written. -/
  | property (span : Span) (name : String)
  deriving DecidableEq, Repr

def Member.span : Member → Span
  | literal value => value.span
  | letterSet span .. => span
  | property span .. => span

/-- What is asked of a place, as it is written. -/
inductive PlaceTest where
  | textStart
  | textEnd
  | lineStart
  | lineEnd
  | word (test : WordTest)
  deriving DecidableEq, Repr

/-- What an escape sequence stands for. -/
inductive Escape where
  | member (member : Member)
  | place (span : Span) (test : PlaceTest)
  deriving DecidableEq, Repr

def Escape.span : Escape → Span
  | member value => value.span
  | place span _ => span

inductive SetOperation where
  | intersection
  | difference
  | symmetricDifference
  deriving DecidableEq, Repr

def SetOperation.apply : SetOperation → CharSet → CharSet → CharSet
  | intersection => CharSet.intersection
  | difference => CharSet.difference
  | symmetricDifference => CharSet.symmetricDifference

/-- What stands between brackets. -/
inductive SetExpression where
  | empty (span : Span)
  | member (member : Member)
  | range (span : Span) (first last : Literal)
  /-- A set that is written by its name. -/
  | named (span : Span) (set : CharSet) (negated : Bool)
  | brackets (span : Span) (negated : Bool) (content : SetExpression)
  | union (span : Span) (items : List SetExpression)
  | operation (span : Span) (operation : SetOperation) (left right : SetExpression)
  deriving Repr

def SetExpression.span : SetExpression → Span
  | empty span => span
  | member value => value.span
  | range span .. => span
  | named span .. => span
  | brackets span .. => span
  | union span _ => span
  | operation span .. => span

inductive GroupKind where
  /-- A group that is kept apart. -/
  | numbered
  /-- A group that only holds its parts together, with flags for them. -/
  | plain (flags : FlagChanges)
  deriving DecidableEq, Repr

inductive Expression where
  | empty (span : Span)
  /-- Switches flags for the rest of the group. -/
  | flags (span : Span) (changes : FlagChanges)
  | member (member : Member)
  | dot (span : Span)
  | place (span : Span) (test : PlaceTest)
  | set (set : SetExpression)
  | repetition (span : Span) (body : Expression) (least : Nat) (most : Option Nat)
  | group (span : Span) (kind : GroupKind) (body : Expression)
  | alternatives (span : Span) (parts : List Expression)
  | sequence (span : Span) (parts : List Expression)
  deriving Repr

namespace Expression

def span : Expression → Span
  | empty span => span
  | flags span _ => span
  | member value => value.span
  | dot span => span
  | place span _ => span
  | set value => value.span
  | repetition span .. => span
  | group span .. => span
  | alternatives span _ => span
  | sequence span _ => span

/-- The parts in a row, from `start` to `stop`. -/
def ofParts (start stop : Position) : List Expression → Expression
  | [] => empty ⟨start, stop⟩
  | [part] => part
  | parts => sequence ⟨start, stop⟩ parts

def ofEscape : Escape → Expression
  | .member escaped => member escaped
  | .place span test => place span test

end Expression

end DalvikPrepass
