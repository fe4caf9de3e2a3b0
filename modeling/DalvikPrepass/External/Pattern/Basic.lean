import DalvikPrepass.External.CharSet

/-!
# Patterns

A pattern says which pieces of a text it fits.  Whether it fits anywhere is found
without going back in the text: of all places between the characters at once it
is known where a fit may have got to, and each part of the pattern moves those
marks on.

The modules on patterns stand for the library of regular expressions that reads
and applies the pattern in a setting for the log.  It is proved that they come to
an end; nothing else is, and no result on the pre-pass rests on them.
-/

namespace DalvikPrepass

/-- What ends a line: a line feed alone, or carriage returns and line feeds, of
which two together are one end. -/
inductive LineEnds where
  | lineFeed
  | either
  deriving DecidableEq, Repr

/-- What may be asked of the characters next to a place as parts of words. -/
inductive WordTest where
  | boundary
  | noBoundary
  | start
  | stop
  /-- No character of a word is before the place. -/
  | startHalf
  /-- No character of a word is after the place. -/
  | stopHalf
  deriving DecidableEq, Repr

/-- What a pattern may ask of a place without reading a character. -/
inductive Assertion where
  | textStart
  | textEnd
  | lineStart (ends : LineEnds)
  | lineEnd (ends : LineEnds)
  /-- Words consist of ASCII letters, digits and `_`. -/
  | word (test : WordTest)
  /-- Words consist of the letters and digits of all scripts. -/
  | anyWord (test : WordTest)
  deriving DecidableEq, Repr

inductive Pattern where
  | empty
  | assertion (test : Assertion)
  | one (set : CharSet)
  | sequence (first second : Pattern)
  | choice (left right : Pattern)
  /-- From `least` to `most` times in a row, or any number of times from `least` on. -/
  | repeated (pattern : Pattern) (least : Nat) (most : Option Nat)
  /-- A part that is kept apart; it fits where the pattern inside does. -/
  | group (pattern : Pattern)
  deriving DecidableEq, Repr

/-- A place in a text: the characters next to it. -/
structure Place where
  before : Option Char
  after : Option Char
  deriving DecidableEq, Repr

namespace Place

/-- The places of a text from the one after `before` on. -/
def listFrom (before : Option Char) : List Char → List Place
  | [] => [⟨before, none⟩]
  | char :: rest => ⟨before, some char⟩ :: listFrom (some char) rest

/-- The places of a text, which are one more than its characters. -/
def list (chars : List Char) : List Place :=
  listFrom none chars

end Place

/-- Whether the test is passed between two characters of which is known whether
they are parts of words. -/
def WordTest.holds (test : WordTest) (wordBefore wordAfter : Bool) : Bool :=
  match test with
  | boundary => wordBefore != wordAfter
  | noBoundary => wordBefore == wordAfter
  | start => !wordBefore && wordAfter
  | stop => wordBefore && !wordAfter
  | startHalf => !wordBefore
  | stopHalf => !wordAfter

/-- There is no table of the words of all scripts, so that a place never passes a
test that needs one. -/
def Assertion.holdsAt (assertion : Assertion) (place : Place) : Bool :=
  match assertion with
  | textStart => place.before.isNone
  | textEnd => place.after.isNone
  | lineStart .lineFeed => place.before.all (· = '\n')
  | lineStart .either =>
      place.before.all fun char => char = '\n' || char = '\r' && place.after ≠ some '\n'
  | lineEnd .lineFeed => place.after.all (· = '\n')
  | lineEnd .either =>
      place.after.all fun char => char = '\r' || char = '\n' && place.before ≠ some '\r'
  | word test =>
      test.holds (place.before.any CharSet.word.contains) (place.after.any CharSet.word.contains)
  | anyWord _ => false

namespace Pattern

/-- Which places of a text are marked, in order. -/
abbrev Marks := List Bool

namespace Marks

def union (left right : Marks) : Marks :=
  List.zipWith (· || ·) left right

/-- The marks on places that pass a test. -/
def restrict (places : List Place) (test : Place → Bool) (marks : Marks) : Marks :=
  List.zipWith (fun place mark => mark && test place) places marks

/-- Moves each mark one character on. -/
def shift (marks : Marks) : Marks :=
  (false :: marks).dropLast

/-- Takes `step` until nothing changes, for at most so many rounds. -/
def advance (step : Marks → Marks) : (rounds : Nat) → Marks → Marks
  | 0, marks => marks
  | rounds + 1, marks =>
      let next := step marks
      if next = marks then marks else advance step rounds next

/-- Adds what `step` marks until nothing is new, for at most so many rounds. -/
def close (step : Marks → Marks) (rounds : Nat) (marks : Marks) : Marks :=
  advance (fun marks => marks.union (step marks)) rounds marks

end Marks

/-- The places where a fit can end that starts at a marked one.  As many rounds as
there are places are enough for a repetition: in each round a mark moves on or can
stay where it is. -/
def follow (places : List Place) : Pattern → Marks → Marks
  | empty, marks => marks
  | assertion test, marks => marks.restrict places test.holdsAt
  | one set, marks => (marks.restrict places fun place => place.after.any set.contains).shift
  | sequence first second, marks => follow places second (follow places first marks)
  | choice left right, marks => (follow places left marks).union (follow places right marks)
  | repeated pattern least most, marks =>
      let step (marks : Marks) : Marks := follow places pattern marks
      let further := (most.map (· - least)).getD places.length
      Marks.close step (min further places.length)
        (Marks.advance step (min least places.length) marks)
  | group pattern, marks => follow places pattern marks

/-- Whether the pattern fits some piece of the text. -/
def occursIn (pattern : Pattern) (text : String) : Bool :=
  let places := Place.list text.toList
  (pattern.follow places (places.map fun _ => true)).any id

end Pattern

end DalvikPrepass
