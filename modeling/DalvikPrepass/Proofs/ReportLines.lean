import Mathlib
import DalvikPrepass.Lines
import DalvikPrepass.Report
import DalvikPrepass.Proofs.AnnotationWords
import DalvikPrepass.Proofs.Numerals
import DalvikPrepass.Proofs.OpcodeTable

/-!
# Lines of reports

A report is one line for each instruction start, between the header and the
count.  The lines can be told apart in the text since none has the end of a line
in it, and each can be taken apart into its columns, however wide its numbers
are: a numeral ends at the blank behind it, and so does a mnemonic.
-/

namespace DalvikPrepass

/-! ## Lines of text -/

/-- The text has no control characters, so it stays on one line. -/
def Printable (text : String) : Prop :=
  ∀ char ∈ text.toList, ' ' ≤ char

@[simp]
theorem printable_append {left right : String} :
    Printable (left ++ right) ↔ Printable left ∧ Printable right := by
  simp only [Printable, String.toList_append, List.forall_mem_append]

theorem printable_toString (value : Nat) : Printable (toString value) := by
  intro char hchar
  rw [Nat.toString_eq_repr, Nat.toList_repr] at hchar
  exact (by decide : ' ' ≤ '0').trans
    (Numeral.zero_le_of_mem_toDigits (by decide) (by decide) hchar)

theorem printable_hexFilled (digits value : Nat) : Printable (Numeral.hexFilled digits value) := by
  intro char hchar
  rw [Numeral.toList_hexFilled, List.mem_cons, List.mem_cons] at hchar
  rcases hchar with rfl | rfl | hdigit
  · decide
  · decide
  · exact (by decide : ' ' ≤ '0').trans (Numeral.zero_le_of_mem_filledDigits hdigit)

theorem printable_padRight {text : String} (width : Nat) (htext : Printable text) :
    Printable (Numeral.padRight width text) := by
  rw [Numeral.padRight, printable_append]
  refine ⟨htext, ?_⟩
  intro char hchar
  rw [String.toList_ofList] at hchar
  rw [List.eq_of_mem_replicate hchar]

theorem printable_signed (value : Int) : Printable (Numeral.signed value) := by
  have hvalue : Printable (toString value) := by
    cases value with
    | ofNat value => exact printable_toString value
    | negSucc value =>
        have hsign : toString (Int.negSucc value) = "-" ++ toString (value + 1) := rfl
        rw [hsign, printable_append]
        exact ⟨by simp [Printable], printable_toString _⟩
  rw [Numeral.signed]
  split
  · exact hvalue
  · exact printable_append.mpr ⟨by simp [Printable], hvalue⟩

/-- The text with these lines. -/
def unlines (lines : List String) : String :=
  String.join (lines.map (· ++ "\n"))

theorem unlines_cons (line : String) (lines : List String) :
    unlines (line :: lines) = line ++ "\n" ++ unlines lines :=
  String.join_cons

/-- Two runs of lines make up one text. -/
theorem unlines_append (first second : List String) :
    unlines (first ++ second) = unlines first ++ unlines second := by
  rw [unlines, List.map_append, String.join_append]
  rfl

/-- A printable run of characters is one line. -/
theorem linesFrom_append {line chars rest : List Char} (hline : ∀ char ∈ line, ' ' ≤ char)
    (hchars : ∀ char ∈ chars, ' ' ≤ char) :
    linesFrom line (chars ++ '\n' :: rest) =
      String.ofList (line.reverse ++ chars) :: linesFrom [] rest := by
  induction chars generalizing line with
  | nil =>
      -- A carriage return at the end of the line would be taken off.
      rw [List.nil_append, linesFrom, List.append_nil]
      rintro kept rfl
      exact absurd (hline '\r' List.mem_cons_self) (by decide)
  | cons char chars ih =>
      obtain ⟨hchar, hrest⟩ := List.forall_mem_cons.mp hchars
      rw [List.cons_append, linesFrom, ih (List.forall_mem_cons.mpr ⟨hchar, hline⟩) hrest,
        List.reverse_cons, List.append_assoc, List.singleton_append]
      rintro rfl
      exact absurd hchar (by decide)

/-- Lines that are put together are found again. -/
theorem linesOf_unlines {lines : List String} (hlines : ∀ line ∈ lines, Printable line) :
    linesOf (unlines lines) = lines := by
  rw [linesOf]
  induction lines with
  | nil => rfl
  | cons line lines ih =>
      obtain ⟨hline, hrest⟩ := List.forall_mem_cons.mp hlines
      have htext : (unlines (line :: lines)).toList =
          line.toList ++ '\n' :: (unlines lines).toList := by
        rw [unlines_cons, String.toList_append, String.toList_append, List.append_assoc]
        rfl
      rw [htext, linesFrom_append (by simp) hline, ih hrest, List.reverse_nil, List.nil_append,
        String.ofList_toList]

/-- What comes before the first of these elements, and what comes behind. -/
theorem append_cons_inj_of_notMem {α : Type} {mark : α} {left right leftRest rightRest : List α}
    (hleft : mark ∉ left) (hright : mark ∉ right)
    (hsame : left ++ mark :: leftRest = right ++ mark :: rightRest) :
    left = right ∧ leftRest = rightRest := by
  induction left generalizing right with
  | nil =>
      cases right with
      | nil => exact ⟨rfl, (List.cons.inj hsame).2⟩
      | cons first right =>
          rw [(List.cons.inj hsame).1] at hright
          exact absurd List.mem_cons_self hright
  | cons first left ih =>
      cases right with
      | nil =>
          rw [← (List.cons.inj hsame).1] at hleft
          exact absurd List.mem_cons_self hleft
      | cons other right =>
          obtain ⟨rfl, hrest⟩ := List.cons.inj hsame
          obtain ⟨rfl, hbehind⟩ := ih (List.not_mem_of_not_mem_cons hleft)
            (List.not_mem_of_not_mem_cons hright) hrest
          exact ⟨rfl, hbehind⟩

namespace Report

open Numeral

/-! ## Columns -/

/-- The columns of the line for an instruction. -/
structure Line where
  address : Nat
  width : Nat
  inTry : Bool
  target : Bool
  mnemonic : String
  /-- What is shown of a branch, with the blanks in front of it. -/
  branch : String
  blank_lt_of_mem_mnemonic : ∀ char ∈ mnemonic.toList, ' ' < char
  printable_branch : Printable branch
  branch_starts : ∀ char ∈ branch.toList.head?, char = ' '

namespace Line

def text (line : Line) : String :=
  "    " ++ hexFilled 4 line.address ++ "  w=" ++ padRight 3 (toString line.width) ++ " " ++
    (if line.inTry then "T" else " ") ++ (if line.target then "B" else " ") ++ "  " ++
    line.mnemonic ++ line.branch

/-- The columns behind the width. -/
def marksAndName (line : Line) : List Char :=
  (if line.inTry then 'T' else ' ') :: (if line.target then 'B' else ' ') :: ' ' :: ' ' ::
    (line.mnemonic.toList ++ line.branch.toList)

theorem toList_padRight_append {width value : Nat} (rest : List Char) :
    (padRight width (toString value)).toList ++ ' ' :: rest =
      Nat.toDigits 10 value ++ ' ' ::
        (List.replicate (width - (Nat.toDigits 10 value).length) ' ' ++ rest) := by
  have hdigits : (toString value).toList = Nat.toDigits 10 value := by
    rw [Nat.toString_eq_repr, Nat.toList_repr]
  have hblanks (count : Nat) :
      List.replicate count ' ' ++ ' ' :: rest = ' ' :: (List.replicate count ' ' ++ rest) := by
    rw [← List.singleton_append, ← List.append_assoc, ← List.replicate_succ', List.replicate_succ,
      List.cons_append]
  rw [padRight, String.toList_append, String.toList_ofList, ← String.length_toList, hdigits,
    List.append_assoc, hblanks]

/-- The columns of a line, with the blanks that end the numbers. -/
theorem toList_text (line : Line) :
    line.text.toList =
      "    0x".toList ++ (filledDigits 4 line.address ++ ' ' :: (" w=".toList ++
        (Nat.toDigits 10 line.width ++ ' ' ::
          (List.replicate (3 - (Nat.toDigits 10 line.width).length) ' ' ++
            line.marksAndName)))) := by
  have hinTry : (if line.inTry then "T" else " ").toList =
      [if line.inTry then 'T' else ' '] := by
    cases line.inTry <;> rfl
  have htarget : (if line.target then "B" else " ").toList =
      [if line.target then 'B' else ' '] := by
    cases line.target <;> rfl
  have hblank : " ".toList = [' '] := rfl
  rw [← toList_padRight_append]
  unfold text
  simp only [String.toList_append, toList_hexFilled, hinTry, htarget, hblank, List.append_assoc]
  rfl

/-- Behind the mnemonic comes a blank, be it the one of the branch or the one
that is put behind the line. -/
theorem exists_branch_append (line : Line) :
    ∃ rest, line.branch.toList ++ [' '] = ' ' :: rest := by
  have hstarts := line.branch_starts
  cases hbranch : line.branch.toList with
  | nil => exact ⟨[], rfl⟩
  | cons char chars =>
      obtain rfl : char = ' ' := hstarts char (by rw [hbranch]; rfl)
      exact ⟨chars ++ [' '], rfl⟩

theorem eq_of_name_eq {left right : Line}
    (hsame : left.mnemonic.toList ++ left.branch.toList =
      right.mnemonic.toList ++ right.branch.toList) :
    left.mnemonic = right.mnemonic ∧ left.branch = right.branch := by
  have hnotMem (line : Line) : ' ' ∉ line.mnemonic.toList := by
    intro hblank
    exact absurd (line.blank_lt_of_mem_mnemonic ' ' hblank) (by decide)
  obtain ⟨leftRest, hleft⟩ := left.exists_branch_append
  obtain ⟨rightRest, hright⟩ := right.exists_branch_append
  have hended := congrArg (· ++ [' ']) hsame
  simp only [List.append_assoc, hleft, hright] at hended
  obtain ⟨hmnemonic, hrest⟩ := append_cons_inj_of_notMem (hnotMem left) (hnotMem right) hended
  have hbranch : left.branch.toList ++ [' '] = right.branch.toList ++ [' '] := by
    rw [hleft, hright, hrest]
  exact ⟨String.toList_inj.mp hmnemonic, String.toList_inj.mp (List.append_cancel_right hbranch)⟩

/-- A mark is shown by a letter of its own. -/
theorem eq_of_letter_eq {letter : Char} (hletter : letter ≠ ' ') {left right : Bool}
    (hsame : (if left then letter else ' ') = if right then letter else ' ') : left = right := by
  cases left with
  | false =>
      cases right with
      | false => rfl
      | true => exact absurd hsame.symm hletter
  | true =>
      cases right with
      | false => exact absurd hsame hletter
      | true => rfl

/-- The last columns can be told apart, although the branch has no fixed width. -/
theorem eq_of_marksAndName_eq {left right : Line}
    (hsame : left.marksAndName = right.marksAndName) :
    left.inTry = right.inTry ∧ left.target = right.target ∧ left.mnemonic = right.mnemonic ∧
      left.branch = right.branch := by
  simp only [marksAndName, List.cons.injEq, true_and] at hsame
  obtain ⟨hinTry, htarget, hname⟩ := hsame
  exact ⟨eq_of_letter_eq (by decide) hinTry, eq_of_letter_eq (by decide) htarget,
    eq_of_name_eq hname⟩

/-- No two lines look the same. -/
theorem text_injective : Function.Injective text := by
  intro left right hsame
  have hchars := congrArg String.toList hsame
  rw [toList_text, toList_text] at hchars
  have haddressEnds (line : Line) : ' ' ∉ filledDigits 4 line.address := by
    intro hblank
    exact absurd (zero_le_of_mem_filledDigits hblank) (by decide)
  have hwidthEnds (line : Line) : ' ' ∉ Nat.toDigits 10 line.width := by
    intro hblank
    exact absurd (zero_le_of_mem_toDigits (by decide) (by decide) hblank) (by decide)
  obtain ⟨haddress, hbehind⟩ := append_cons_inj_of_notMem (haddressEnds left)
    (haddressEnds right) (List.append_cancel_left hchars)
  obtain ⟨hwidth, hbehind⟩ := append_cons_inj_of_notMem (hwidthEnds left) (hwidthEnds right)
    (List.append_cancel_left hbehind)
  rw [hwidth] at hbehind
  obtain ⟨hinTry, htarget, hmnemonic, hbranch⟩ :=
    eq_of_marksAndName_eq (List.append_cancel_left hbehind)
  rw [Line.mk.injEq]
  exact ⟨filledDigits_injective 4 haddress, toDigits_injective (by decide) (by decide) hwidth,
    hinTry, htarget, hmnemonic, hbranch⟩

/-- A line has no line break in it. -/
theorem printable_text (line : Line) : Printable line.text := by
  have hmnemonic : Printable line.mnemonic := fun char hchar =>
    (line.blank_lt_of_mem_mnemonic char hchar).le
  have hinTry : Printable (if line.inTry then "T" else " ") := by
    cases line.inTry <;> simp [Printable]
  have htarget : Printable (if line.target then "B" else " ") := by
    cases line.target <;> simp [Printable]
  have hblanks : Printable "    " ∧ Printable "  w=" ∧ Printable " " ∧ Printable "  " := by
    simp [Printable]
  unfold text
  simp only [printable_append, hmnemonic, hinTry, htarget, hblanks, printable_hexFilled,
    printable_padRight 3 (printable_toString line.width), line.printable_branch, and_self]

end Line

/-! ## The lines of a report -/

section Mnemonic

variable {unit : CodeUnit}

theorem mnemonic_of_payload {payload : Payload} (hunit : Payload.ofUnit unit = some payload) :
    mnemonic unit = payload.mnemonic := by
  rw [mnemonic, hunit]

theorem mnemonic_of_opcode {opcode : Opcode} (hpayload : Payload.ofUnit unit = none)
    (hunit : Opcode.ofUnit unit = some opcode) : mnemonic unit = opcode.mnemonic := by
  rw [mnemonic, hpayload, hunit]

theorem mnemonic_of_none (hpayload : Payload.ofUnit unit = none)
    (hunit : Opcode.ofUnit unit = none) : mnemonic unit = "<unknown>" := by
  rw [mnemonic, hpayload, hunit]

theorem blank_lt_of_mem_mnemonic (unit : CodeUnit) :
    ∀ char ∈ (mnemonic unit).toList, ' ' < char := by
  cases hpayload : Payload.ofUnit unit with
  | some payload =>
      rw [mnemonic_of_payload hpayload]
      cases payload <;> simp [Payload.mnemonic]
  | none =>
      cases hopcode : Opcode.ofUnit unit with
      | some opcode =>
          rw [mnemonic_of_opcode hpayload hopcode]
          intro char hchar
          exact Opcode.blank_lt_of_mem_mnemonic (Opcode.mem_of_ofUnit hopcode).1 hchar
      | none =>
          rw [mnemonic_of_none hpayload hopcode]
          simp

end Mnemonic

/-- What the line for the instruction at the address shows of a branch. -/
def branchColumn (code : List CodeUnit) (address : Nat) : String :=
  match Branch.decodeAt code address with
  | some branch => branchText branch address
  | none => ""

theorem printable_branchText (branch : Branch) (address : Nat) :
    Printable (branchText branch address) := by
  have hkind : Printable (if branch.conditional then "cond" else "goto") := by
    cases branch.conditional <;> simp [Printable]
  have hbetween : Printable "  " ∧ Printable " " ∧ Printable " -> " := by
    simp [Printable]
  have hnoTarget : Printable "<before start>" := by simp [Printable]
  unfold branchText
  simp only [printable_append, hkind, hbetween, printable_signed, true_and]
  split
  · exact printable_hexFilled 4 _
  · exact hnoTarget

theorem printable_branchColumn (code : List CodeUnit) (address : Nat) :
    Printable (branchColumn code address) := by
  rw [branchColumn]
  split
  · exact printable_branchText _ _
  · intro char hchar
    simp at hchar

theorem branchColumn_starts (code : List CodeUnit) (address : Nat) :
    ∀ char ∈ (branchColumn code address).toList.head?, char = ' ' := by
  rw [branchColumn]
  split
  · simp [branchText]
  · simp

/-- The line for the instruction at the address. -/
def lineAt (code : List CodeUnit) (annotations : Annotations) (address : Nat) : Line where
  address := address
  width := annotations.width address
  inTry := annotations.has .inTry address
  target := annotations.has .branchTarget address
  mnemonic := mnemonic (code.getD address 0)
  branch := branchColumn code address
  blank_lt_of_mem_mnemonic := blank_lt_of_mem_mnemonic _
  printable_branch := printable_branchColumn code address
  branch_starts := branchColumn_starts code address

/-- Each instruction is written as the line about it. -/
theorem instructionLine_eq {code : List CodeUnit} {annotations : Annotations} {address : Nat}
    {unit : CodeUnit} {units : List CodeUnit} (hcode : code.drop address = unit :: units) :
    instructionLine annotations address unit units =
      (lineAt code annotations address).text ++ "\n" := by
  have hunit : code.getD address 0 = unit := by
    rw [List.getD_eq_getElem?_getD, ← List.head?_drop, hcode]
    rfl
  unfold instructionLine Line.text
  cases hdecode : Branch.decode (unit :: units) <;>
    simp only [lineAt, branchColumn, Branch.decodeAt, hcode, hunit, hdecode, String.append_assoc]

/-- The lines for the instructions, in the order of their addresses. -/
def instructions (code : List CodeUnit) (annotations : Annotations) : List Line :=
  annotations.starts.map fun extent => lineAt code annotations extent.1

/-- The line behind the instructions. -/
def countLine (count : Nat) : String :=
  "    # new-instance: " ++ toString count

theorem printable_countLine (count : Nat) : Printable (countLine count) :=
  printable_append.mpr ⟨by simp [Printable], printable_toString count⟩

/-- The last line tells the number of allocations. -/
theorem countLine_injective : Function.Injective countLine := by
  intro left right hsame
  exact Nat.repr_inj.mp ((String.append_right_inj "    # new-instance: ").mp hsame)

/-- The loop over the code writes one line for each start, in order. -/
theorem instructionLines_eq {code : List CodeUnit} (annotations : Annotations) {address : Nat}
    {units : List CodeUnit} (hcode : code.drop address = units) (text : String) :
    instructionLines annotations address text units =
      text ++ unlines (((List.range' address units.length).filter annotations.isStart).map
        fun place => (lineAt code annotations place).text) := by
  induction units generalizing address text with
  | nil => simp [instructionLines, unlines]
  | cons unit units ih =>
      have hrest : code.drop (address + 1) = units := by
        rw [← List.drop_drop, hcode, List.drop_one, List.tail_cons]
      rw [instructionLines, ih hrest, List.length_cons, List.range'_succ, List.filter_cons]
      split
      · rw [List.map_cons, unlines_cons, instructionLine_eq hcode]
        simp only [String.append_assoc]
      · rfl

theorem map_fst_starts (annotations : Annotations) :
    annotations.starts.map Prod.fst = (List.range annotations.size).filter annotations.isStart := by
  rw [Annotations.starts_eq, List.filter_map, List.map_map]
  exact List.map_id _

/-- The report is the header, a line for each instruction, and the count. -/
theorem render_eq {method : MethodCode} {prepared : Prepass.Prepared}
    (hsize : prepared.annotations.size = method.code.length) :
    render method prepared = header method.method ++
      unlines ((instructions method.code prepared.annotations).map Line.text ++
        [countLine prepared.newInstances]) := by
  have hlines : (instructions method.code prepared.annotations).map Line.text =
      ((List.range' 0 method.code.length).filter prepared.annotations.isStart).map
        fun place => (lineAt method.code prepared.annotations place).text := by
    rw [← List.range_eq_range', ← hsize, ← map_fst_starts, instructions, List.map_map,
      List.map_map]
    rfl
  have hcount : unlines [countLine prepared.newInstances] =
      countLine prepared.newInstances ++ "\n" := by
    rw [unlines_cons]
    exact String.append_empty
  have hall : method.code.drop 0 = method.code := List.drop_zero
  calc render method prepared
      = instructionLines prepared.annotations 0 (header method.method) method.code ++
          (countLine prepared.newInstances ++ "\n") := by
        unfold render countLine
        simp only [String.append_assoc]
    _ = _ := by
        rw [instructionLines_eq prepared.annotations hall, ← hlines, String.append_assoc,
          ← hcount, ← unlines_append]

end Report

end DalvikPrepass
