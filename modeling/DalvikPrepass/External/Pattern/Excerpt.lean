import DalvikPrepass.External.Pattern.Span
import DalvikPrepass.Lines

/-!
# Excerpts

An excerpt shows a written pattern with carets below the pieces that a message is
about.  The lines of a pattern that has several carry numbers.
-/

namespace DalvikPrepass

namespace Span

/-- The spans in the order of their starts. -/
def sort (spans : List Span) : List Span :=
  spans.mergeSort fun left right => !right.start.isBefore left.start

/-- The carets below the pieces of one line, after `column` columns. -/
def caretsFrom (column : Nat) : List Span → List Char
  | [] => []
  | span :: spans =>
      let blanks := span.start.column - 1 - column
      let carets := max 1 (span.stop.column - span.start.column)
      List.replicate blanks ' ' ++ List.replicate carets '^' ++
        caretsFrom (column + blanks + carets) spans

end Span

/-- What an excerpt shows: the pieces of a text. -/
structure Excerpt where
  text : String
  spans : List Span
  deriving DecidableEq, Repr

namespace Excerpt

/-- The pieces that lie in one line. -/
def inLine (excerpt : Excerpt) (line : Nat) : List Span :=
  Span.sort (excerpt.spans.filter fun span => span.start.line = line && span.stop.line = line)

/-- The pieces that go over the end of a line. -/
def acrossLines (excerpt : Excerpt) : List Span :=
  Span.sort (excerpt.spans.filter fun span => span.start.line ≠ span.stop.line)

def hasLines (excerpt : Excerpt) : Bool :=
  excerpt.text.toList.contains '\n'

/-- As many columns as the highest line number needs; none where one line is all. -/
def numberWidth (excerpt : Excerpt) : Nat :=
  let ended := if excerpt.text.toList.getLast? = some '\n' then 1 else 0
  let count := (linesOf excerpt.text).length + ended
  if count ≤ 1 then 0 else (toString count).length

/-- A line as it is shown where line numbers have `width` columns, with the carets
below it. -/
def shownLine (excerpt : Excerpt) (width number : Nat) (line : String) : String :=
  let margin := if width = 0 then 4 else width + 2
  let label := if width = 0 then "" else toString number ++ ": "
  let spans := excerpt.inLine number
  let carets := List.replicate margin ' ' ++ Span.caretsFrom 0 spans
  String.ofList (List.replicate (margin - label.length) ' ') ++ label ++ line ++ "\n" ++
    (if spans.isEmpty then "" else String.ofList carets ++ "\n")

/-- The lines with carets, each one ended. -/
def shownLines (excerpt : Excerpt) : String :=
  let width := excerpt.numberWidth
  String.join ((linesOf excerpt.text).zipIdx.map fun (line, index) =>
    excerpt.shownLine width (index + 1) line)

/-- Says where a piece is that goes over the end of a line. -/
def extent (span : Span) : String :=
  "on line " ++ toString span.start.line ++ " (column " ++ toString span.start.column ++
    ") through line " ++ toString span.stop.line ++ " (column " ++
    toString (span.stop.column - 1) ++ ")\n"

def divider : String :=
  String.ofList (List.replicate 79 '~') ++ "\n"

/-- The whole excerpt.  One with several lines stands between dividers, and pieces
that carets cannot show follow it. -/
def shown (excerpt : Excerpt) : String :=
  if excerpt.hasLines then
    divider ++ excerpt.shownLines ++ divider ++ String.join (excerpt.acrossLines.map extent)
  else excerpt.shownLines

end Excerpt

end DalvikPrepass
