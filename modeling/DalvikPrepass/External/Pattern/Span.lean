/-!
# Places in a written pattern

A place is given by its line and its column, both counted from one; a column is a
character.
-/

namespace DalvikPrepass

structure Position where
  line : Nat
  column : Nat
  deriving DecidableEq, Repr

namespace Position

def first : Position :=
  ⟨1, 1⟩

/-- The position behind a character at this one. -/
def after (position : Position) (char : Char) : Position :=
  if char = '\n' then ⟨position.line + 1, 1⟩ else ⟨position.line, position.column + 1⟩

def isBefore (left right : Position) : Bool :=
  left.line < right.line || left.line = right.line && left.column < right.column

end Position

/-- A piece of a written pattern; `stop` is the position behind it. -/
structure Span where
  start : Position
  stop : Position
  deriving DecidableEq, Repr

namespace Span

/-- The empty piece at a position. -/
def point (position : Position) : Span :=
  ⟨position, position⟩

/-- From the start of one piece to the end of another. -/
def through (first last : Span) : Span :=
  ⟨first.start, last.stop⟩

end Span

end DalvikPrepass
