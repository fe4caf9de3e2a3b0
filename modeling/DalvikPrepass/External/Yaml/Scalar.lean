import DalvikPrepass.External.Yaml.Source
import DalvikPrepass.Numeral

/-!
# Scalars

A scalar may run over several lines.  It is first read into pieces; then each
gap of blanks and line breaks between its words is folded: a gap within a line
stays as it is, a single line break becomes a space, and of several line breaks
the first one goes.  An escaped line break disappears.
-/

namespace DalvikPrepass.Yaml

/-- A part of a scalar as it is written. -/
inductive Piece where
  | text (char : Char)
  | blank (char : Char)
  /-- A line break, in normal form. -/
  | lineBreak (char : Char)
  /-- A line break after a backslash. -/
  | joint
  deriving DecidableEq, Repr

/-- Blanks and line breaks with no text between them. -/
structure Gap where
  /-- Whether the gap starts with an escaped line break. -/
  joined : Bool
  /-- The blanks before the first line break. -/
  blanks : List Char
  breaks : List Char
  deriving Repr

namespace Gap

def empty : Gap :=
  ⟨false, [], []⟩

def addBlank (gap : Gap) (char : Char) : Gap :=
  if gap.joined || !gap.breaks.isEmpty then gap
  else { gap with blanks := gap.blanks ++ [char] }

def addBreak (gap : Gap) (char : Char) : Gap :=
  { gap with breaks := gap.breaks ++ [char] }

/-- What the gap counts for. -/
def folded (gap : Gap) : List Char :=
  if gap.joined then gap.breaks
  else match gap.breaks with
    | [] => gap.blanks
    | ['\n'] => [' ']
    | '\n' :: more => more
    | breaks => breaks

end Gap

namespace Piece

/-- The text of a scalar, after the text before it in reverse. -/
def foldFrom (before : List Char) (gap : Gap) : List Piece → List Char
  | [] => before.reverse ++ gap.folded
  | text char :: pieces => foldFrom (char :: (gap.folded.reverse ++ before)) .empty pieces
  | blank char :: pieces => foldFrom before (gap.addBlank char) pieces
  | lineBreak char :: pieces => foldFrom before (gap.addBreak char) pieces
  | joint :: pieces =>
      foldFrom (gap.folded.reverse ++ before) { Gap.empty with joined := true } pieces

/-- The text of a scalar. -/
def fold (pieces : List Piece) : String :=
  String.ofList (foldFrom [] .empty pieces)

end Piece

/-- The character that a backslash and this character stand for, unless the
character is named by its code. -/
def escapedChar : Char → Option Char
  | '0' => some '\x00'
  | 'a' => some '\x07'
  | 'b' => some '\x08'
  | 't' => some '\t'
  | '\t' => some '\t'
  | 'n' => some '\n'
  | 'v' => some '\x0b'
  | 'f' => some '\x0c'
  | 'r' => some '\r'
  | 'e' => some '\x1b'
  | ' ' => some ' '
  | '"' => some '"'
  | '/' => some '/'
  | '\\' => some '\\'
  | 'N' => some '\u0085'
  | '_' => some '\u00a0'
  | 'L' => some '\u2028'
  | 'P' => some '\u2029'
  | _ => none

/-- Number of hexadecimal digits after a backslash and this character. -/
def escapeDigits : Char → Option Nat
  | 'x' => some 2
  | 'u' => some 4
  | 'U' => some 8
  | _ => none

/-- How a quoted scalar is delimited. -/
inductive QuoteStyle where
  | single
  | double
  deriving DecidableEq, Repr

def QuoteStyle.mark : QuoteStyle → Char
  | single => '\''
  | double => '"'

/-- The next piece of a quoted scalar and the text after it; `none` at the
closing quote. -/
def quotedPiece (style : QuoteStyle) (source : Source) :
    Except Error (Option (Piece × Source)) :=
  match source.rest with
  | [] => .error .unclosedQuote
  | char :: rest =>
      if isBlank char then .ok (some (.blank char, source.advance 1))
      else if isBreak char then .ok (some (.lineBreak (normalBreak char), source.advanceLine))
      else if source.atDocumentMarker then .error .documentMarkerInQuote
      else match style, char, rest with
        | .single, '\'', '\'' :: _ => .ok (some (.text '\'', source.advance 2))
        | .double, '\\', next :: digits =>
            if isBreak next then .ok (some (.joint, (source.advance 1).advanceLine))
            else match escapedChar next, escapeDigits next with
              | some char, _ => .ok (some (.text char, source.advance 2))
              | none, some count =>
                  match Numeral.codedChar count digits with
                  | some char => .ok (some (.text char, source.advance (2 + count)))
                  | none => .error .invalidEscapeCode
              | none, none => .error .unknownEscape
        | .double, '\\', [] => .error .unknownEscape
        | _, _, _ =>
            if char = style.mark then .ok none
            else .ok (some (.text char, source.advance 1))

theorem quotedPiece_shortens {style : QuoteStyle} {source after : Source} {piece : Piece}
    (hpiece : quotedPiece style source = .ok (some (piece, after))) :
    after.rest.length < source.rest.length := by
  have hrest : source.rest ≠ [] := by
    intro hnil
    simp [quotedPiece, hnil] at hpiece
  have hpositive := List.length_pos_iff.mpr hrest
  have hline := source.length_rest_advanceLine_le
  have hjoint := (source.advance 1).length_rest_advanceLine_le
  unfold quotedPiece at hpiece
  repeat' split at hpiece
  all_goals simp only [Except.ok.injEq, Option.some.injEq, Prod.mk.injEq, reduceCtorEq] at hpiece
  all_goals obtain ⟨-, rfl⟩ := hpiece
  all_goals simp only [Source.length_rest_advance] at hjoint ⊢
  all_goals omega

/-- Reads a quoted scalar from its first character on, up to the text after its
closing quote; `pieces` are those before, in reverse. -/
def quotedFrom (style : QuoteStyle) (pieces : List Piece) (source : Source) :
    Except Error (String × Source) :=
  match hpiece : quotedPiece style source with
  | .error error => .error error
  | .ok none => .ok (Piece.fold pieces.reverse, source.advance 1)
  | .ok (some (piece, after)) =>
      have : after.rest.length < source.rest.length := quotedPiece_shortens hpiece
      quotedFrom style (piece :: pieces) after
termination_by source.rest.length

/-- The quoted scalar whose opening quote is at the front. -/
def quotedScalar (style : QuoteStyle) (source : Source) : Except Error (String × Source) :=
  quotedFrom style [] (source.advance 1)

/-- A plain scalar that has been read in part. -/
structure PlainScan where
  /-- The pieces up to the last text, in reverse. -/
  pieces : List Piece
  /-- The blanks and line breaks after them, in reverse. -/
  gap : List Piece
  /-- Whether there is a line break among those. -/
  broken : Bool
  source : Source
  deriving Repr

namespace PlainScan

/-- Whether a `:` here would make the text before it a key. -/
def atColon (source : Source) (inFlow : Bool) : Bool :=
  match source.rest with
  | ':' :: _ => source.endsWordAt 1
  | ',' :: _ | '[' :: _ | ']' :: _ | '\x7b' :: _ | '\x7d' :: _ => inFlow
  | _ => false

/-- Whether a `:` stands here with a flow indicator after it. -/
def atFlowColon (source : Source) : Bool :=
  match source.rest with
  | ':' :: next :: _ => [',', '?', '[', ']', '\x7b', '\x7d'].contains next
  | _ => false

/-- One step of reading a plain scalar: the scan after it, or `none` if the
scalar ends here.  Lines of a scalar in block style are indented by at least
`indent` columns. -/
def step (inFlow : Bool) (indent : Nat) (scan : PlainScan) : Except Error (Option PlainScan) :=
  let source := scan.source
  match source.rest with
  | [] => .ok none
  | char :: _ =>
      if isBlank char then
        if scan.broken && source.column < indent && char = '\t' then
          .error .tabInIndentation
        else
          .ok (some { scan with gap := .blank char :: scan.gap, source := source.advance 1 })
      else if isBreak char then
        .ok (some { scan with
          gap := .lineBreak (normalBreak char) :: scan.gap
          broken := true
          source := source.advanceLine })
      else if scan.broken && !inFlow && source.column < indent then .ok none
      else if source.atDocumentMarker then .ok none
      else if char = '#' && !scan.gap.isEmpty then .ok none
      else if inFlow && atFlowColon source then .error .colonInPlainScalar
      else if atColon source inFlow then .ok none
      else
        .ok (some
          { pieces := .text char :: (scan.gap ++ scan.pieces)
            gap := []
            broken := false
            source := source.advance 1 })

theorem step_shortens {inFlow : Bool} {indent : Nat} {scan after : PlainScan}
    (hstep : scan.step inFlow indent = .ok (some after)) :
    after.source.rest.length < scan.source.rest.length := by
  have hrest : scan.source.rest ≠ [] := by
    intro hnil
    simp [step, hnil] at hstep
  have hpositive := List.length_pos_iff.mpr hrest
  have hline := scan.source.length_rest_advanceLine_le
  dsimp only [step] at hstep
  repeat' split at hstep
  all_goals simp only [Except.ok.injEq, Option.some.injEq, reduceCtorEq] at hstep
  all_goals subst hstep
  all_goals simp only [Source.length_rest_advance]
  all_goals omega

/-- Reads a plain scalar to its end. -/
def finish (inFlow : Bool) (indent : Nat) (scan : PlainScan) : Except Error PlainScan :=
  match hstep : scan.step inFlow indent with
  | .error error => .error error
  | .ok none => .ok scan
  | .ok (some after) =>
      have : after.source.rest.length < scan.source.rest.length := step_shortens hstep
      finish inFlow indent after
termination_by scan.source.rest.length

end PlainScan

/-- The plain scalar at the front, the text after it and the gap behind it, and
whether there is a line break in that gap. -/
def plainScalar (inFlow : Bool) (indent : Nat) (source : Source) :
    Except Error (String × Source × Bool) := do
  let scan ← PlainScan.finish inFlow indent ⟨[], [], false, source⟩
  return (Piece.fold scan.pieces.reverse, scan.source, scan.broken)

end DalvikPrepass.Yaml
