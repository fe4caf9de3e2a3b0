import DalvikPrepass.External.CharSet
import DalvikPrepass.External.Pattern.Fault

/-!
# Scanning a written pattern

A scan is what is left of a pattern that has been read in part.  Where the pattern
asks for it, white space between its parts is passed over, and so are comments,
which start with a number sign and go to the end of the line.
-/

namespace DalvikPrepass

structure Scan where
  rest : List Char
  position : Position
  /-- Whether white space and comments are passed over. -/
  spaced : Bool
  deriving DecidableEq, Repr

namespace Scan

def ofString (text : String) : Scan :=
  ⟨text.toList, .first, false⟩

/-- The empty piece at the front. -/
def here (scan : Scan) : Span :=
  .point scan.position

/-- The character at the front as a piece of the pattern. -/
def frontSpan (scan : Scan) : Span :=
  match scan.rest with
  | [] => scan.here
  | char :: _ => ⟨scan.position, scan.position.after char⟩

/-- The piece from `start` on that has been read. -/
def since (scan : Scan) (start : Position) : Span :=
  ⟨start, scan.position⟩

/-- Passes over one character. -/
def advance (scan : Scan) : Scan :=
  match scan.rest with
  | [] => scan
  | char :: rest => { scan with rest, position := scan.position.after char }

/-- Where white space and comments at the front end; `inComment` says whether the
front is part of a comment. -/
def gapEnd (inComment : Bool) (position : Position) : List Char → Position × List Char
  | [] => (position, [])
  | char :: rest =>
      if inComment then gapEnd (char ≠ '\n') (position.after char) rest
      else if CharSet.whiteSpace.contains char then gapEnd false (position.after char) rest
      else if char = '#' then gapEnd true (position.after char) rest
      else (position, char :: rest)

/-- Passes over white space and comments, where they count for nothing. -/
def skipGap (scan : Scan) : Scan :=
  if scan.spaced then
    let (position, rest) := gapEnd false scan.position scan.rest
    { scan with rest, position }
  else scan

/-- Passes over one character and the gap after it. -/
def step (scan : Scan) : Scan :=
  scan.advance.skipGap

/-- Whether `mark` is at the front. -/
def startsWith (scan : Scan) (mark : List Char) : Bool :=
  mark.isPrefixOf scan.rest

/-- Passes over the characters of `mark`. -/
def advanceOver (scan : Scan) (mark : List Char) : Scan :=
  mark.foldl (fun scan _ => scan.advance) scan

/-- The character after the one at the front.  Of a gap between them only the part
up to the first word of a comment is passed over. -/
def peek? (scan : Scan) : Option Char :=
  let blank := CharSet.whiteSpace.contains
  let after := scan.rest.tail
  if scan.spaced then
    match after.dropWhile blank with
    | '#' :: comment => (comment.dropWhile blank).head?
    | rest => rest.head?
  else after.head?

theorem length_gapEnd_le (inComment : Bool) (position : Position) (rest : List Char) :
    (gapEnd inComment position rest).2.length ≤ rest.length := by
  fun_induction gapEnd inComment position rest <;> simp only [List.length_cons] <;> omega

theorem length_rest_skipGap_le (scan : Scan) : scan.skipGap.rest.length ≤ scan.rest.length := by
  unfold skipGap
  split
  · exact length_gapEnd_le false scan.position scan.rest
  · exact Nat.le_refl _

theorem length_rest_step_lt {scan : Scan} {char : Char} {rest : List Char}
    (hrest : scan.rest = char :: rest) : scan.step.rest.length < scan.rest.length := by
  have hskip := length_rest_skipGap_le scan.advance
  have hadvance : scan.advance.rest = rest := by simp [advance, hrest]
  rw [hadvance] at hskip
  simp only [step, hrest, List.length_cons]
  omega

/-- The characters at the front that pass the test, one after the other and without
the gaps between them, and the scan after them. -/
def takeWhile (test : Char → Bool) (scan : Scan) : List Char × Scan :=
  match hrest : scan.rest with
  | [] => ([], scan)
  | char :: _ =>
      if test char then
        have : scan.step.rest.length < scan.rest.length := length_rest_step_lt hrest
        let (chars, after) := takeWhile test scan.step
        (char :: chars, after)
      else ([], scan)
termination_by scan.rest.length

/-- Passes over blanks that stand next to a number. -/
def skipBlanks (scan : Scan) : Scan :=
  (scan.takeWhile CharSet.whiteSpace.contains).2

end Scan

end DalvikPrepass
