import Mathlib
import DalvikPrepass.Proofs.InstructionChain
import DalvikPrepass.Proofs.PassOutcome
import DalvikPrepass.Proofs.WidthLocality

/-!
# Code in two pieces

Where the first piece is whole instructions, the chain of the code is that of
the first piece and then that of the second, moved behind the first.  So the
verdict on the second piece does not depend on what comes before it, and the
annotations of the code are those of its pieces side by side.
-/

namespace DalvikPrepass

/-! ## Annotations side by side -/

namespace Annotations

/-- The annotations of two pieces of code as those of both. -/
instance : Append Annotations where
  append left right := ⟨left.words ++ right.words⟩

theorem size_append (left right : Annotations) : (left ++ right).size = left.size + right.size :=
  Array.size_append

theorem word_append_left {left : Annotations} {address : Nat} (haddress : address < left.size)
    (right : Annotations) : (left ++ right).word address = left.word address := by
  change (left.words ++ right.words).getD address 0 = left.words.getD address 0
  rw [Array.getD_eq_getD_getElem?, Array.getD_eq_getD_getElem?,
    Array.getElem?_append_left haddress]

theorem word_append_right (left right : Annotations) (address : Nat) :
    (left ++ right).word (left.size + address) = right.word address := by
  change (left.words ++ right.words).getD (left.words.size + address) 0 =
    right.words.getD address 0
  rw [Array.getD_eq_getD_getElem?, Array.getD_eq_getD_getElem?,
    Array.getElem?_append_right (Nat.le_add_right _ _), Nat.add_sub_cancel_left]

end Annotations

/-! ## Verdicts further on -/

/-- What is wrong with code, told from `distance` code units before it.  Only a
scan is made piece by piece; the defects that it does not find stay. -/
def Defect.shift (distance : Nat) : Defect → Defect
  | invalidInstruction address unit => invalidInstruction (distance + address) unit
  | insaneWidth address width => insaneWidth (distance + address) width
  | cutInstruction stop length => cutInstruction (distance + stop) (distance + length)
  | defect => defect

namespace Prepass

/-! ## Chains in a row -/

section Chains

variable {lookup : WidthLookup} {code more : List CodeUnit}

/-- What a lookup inside the first piece is given. -/
theorem rest_append {address : Nat} (hinside : address < code.length) (more : List CodeUnit) :
    code.drop address ≠ [] ∧ (code ++ more).drop address = code.drop address ++ more :=
  ⟨mt List.drop_eq_nil_iff.mp (Nat.not_le_of_lt hinside),
    List.drop_append_of_le_length (Nat.le_of_lt hinside)⟩

/-- An instruction that is all there does not look behind its end. -/
theorem isInstruction_append_left {address width : Nat} (hlocal : lookup.Local)
    (hextent : IsInstruction lookup code address width) (hend : address + width ≤ code.length)
    (more : List CodeUnit) : IsInstruction lookup (code ++ more) address width := by
  obtain ⟨hinside, rfl, hwidth⟩ := hextent
  obtain ⟨hrest, hdrop⟩ := rest_append hinside more
  refine ⟨?_, ?_, hwidth⟩
  · rw [List.length_append]
    exact Nat.lt_add_right _ hinside
  · rw [hdrop]
    apply hlocal _ _ hrest
    rw [List.length_drop]
    omega

theorem isInstruction_append_right {address width : Nat}
    (hextent : IsInstruction lookup more address width) (code : List CodeUnit) :
    IsInstruction lookup (code ++ more) (code.length + address) width := by
  obtain ⟨hinside, hlookup, hwidth⟩ := hextent
  refine ⟨?_, ?_, hwidth⟩
  · rw [List.length_append]
    exact Nat.add_lt_add_left hinside _
  · rw [List.drop_length_add_append, hlookup]

/-- The chain of the first piece goes on with that of the second. -/
theorem chain_append {extents others : List (Nat × Nat)} {stop : Nat} (hlocal : lookup.Local)
    (hcode : Tiles (IsInstruction lookup code) 0 extents code.length)
    (hmore : Tiles (IsInstruction lookup more) 0 others stop) :
    Tiles (IsInstruction lookup (code ++ more)) 0
      (extents ++ shiftExtents code.length others) (code.length + stop) := by
  have hleft : Tiles (IsInstruction lookup (code ++ more)) 0 extents code.length := by
    apply hcode.mono
    intro address width hmem hextent
    exact isInstruction_append_left hlocal hextent (hcode.of_mem hmem).2.2.1 more
  have hright : Tiles (IsInstruction lookup (code ++ more)) code.length
      (shiftExtents code.length others) (code.length + stop) :=
    hmore.shift fun address width hextent => isInstruction_append_right hextent code
  exact hleft.append hright

/-- The allocations of two pieces of code add up. -/
theorem newInstancesIn_append {extents others : List (Nat × Nat)}
    (hcode : Tiles (IsInstruction lookup code) 0 extents code.length) :
    newInstancesIn (code ++ more) (extents ++ shiftExtents code.length others) =
      newInstancesIn code extents + newInstancesIn more others := by
  rw [newInstancesIn, List.countP_append]
  congr 1
  · apply List.countP_congr
    intro extent hmem
    rw [List.getD_append _ _ _ _ (hcode.of_mem hmem).2.2.2.1]
  · rw [shiftExtents, List.countP_map]
    apply List.countP_congr
    intro extent hmem
    simp only [Function.comp_apply]
    rw [List.getD_append_right _ _ _ _ (Nat.le_add_right _ _), Nat.add_sub_cancel_left]

end Chains

/-! ## What a scan writes -/

/-- The annotations hold the widths of the extents and nothing else. -/
structure HoldsOnly (extents : List (Nat × Nat)) (size : Nat) (annotations : Annotations) : Prop
    where
  recorded : Recorded extents (.blank size) annotations
  above : ∀ address, annotations.aboveWidth address = 0

namespace HoldsOnly

variable {extents others : List (Nat × Nat)} {size otherSize : Nat} {left right : Annotations}

theorem size_eq (hleft : HoldsOnly extents size left) : left.size = size := by
  rw [hleft.recorded.size, Annotations.size_blank]

/-- Words are equal where the same extents start. -/
theorem word_eq (hleft : HoldsOnly extents size left) (hright : HoldsOnly others otherSize right)
    {address place : Nat} (hextents : ∀ width, (address, width) ∈ extents ↔ (place, width) ∈ others) :
    left.word address = right.word place := by
  apply Annotations.word_eq_of_parts
  · by_cases hmem : ∃ width, (address, width) ∈ extents
    · obtain ⟨width, hmem⟩ := hmem
      rw [hleft.recorded.width _ _ hmem, hright.recorded.width _ _ ((hextents width).mp hmem)]
    · have hnone : ∀ width, (address, width) ∉ extents := not_exists.mp hmem
      have hnoneRight : ∀ width, (place, width) ∉ others := by
        intro width hmem
        exact hnone width ((hextents width).mpr hmem)
      rw [hleft.recorded.others _ hnone, hright.recorded.others _ hnoneRight,
        Annotations.width_blank, Annotations.width_blank]
  · rw [hleft.above, hright.above]

/-- What the scans of two pieces write is, side by side, what the scan of both
writes. -/
theorem append {lookup : WidthLookup} {code : List CodeUnit} {whole : Annotations}
    (hcode : Tiles (IsInstruction lookup code) 0 extents code.length)
    (hleft : HoldsOnly extents code.length left) (hright : HoldsOnly others otherSize right)
    (hwhole : HoldsOnly (extents ++ shiftExtents code.length others) (code.length + otherSize)
      whole) : whole = left ++ right := by
  have hsize : whole.size = (left ++ right).size := by
    rw [Annotations.size_append, hwhole.size_eq, hleft.size_eq, hright.size_eq]
  apply Annotations.eq_of_word_eq hsize
  intro address _
  rcases Nat.lt_or_ge address code.length with hinside | hbeyond
  · have haddress : address < left.size := by rw [hleft.size_eq]; exact hinside
    rw [Annotations.word_append_left haddress]
    apply hwhole.word_eq hleft
    intro width
    rw [List.mem_append, or_iff_left]
    intro hmem
    exact absurd (le_of_mem_shiftExtents hmem) (Nat.not_le_of_lt hinside)
  · obtain ⟨place, rfl⟩ := Nat.exists_eq_add_of_le hbeyond
    rw [← hleft.size_eq, Annotations.word_append_right, hleft.size_eq]
    apply hwhole.word_eq hright
    intro width
    rw [List.mem_append, mem_shiftExtents, or_iff_right]
    intro hmem
    obtain ⟨-, hpositive, hend, -⟩ := hcode.of_mem hmem
    omega

end HoldsOnly

section Scans

variable {lookup : WidthLookup} {code more : List CodeUnit}

/-- The chain that fills the code is what the scan writes. -/
theorem exists_scan_of_chain {extents : List (Nat × Nat)}
    (hchain : Tiles (IsInstruction lookup code) 0 extents code.length) :
    ∃ written, HoldsOnly extents code.length written ∧
      scan lookup code (.blank code.length) = .ok ⟨written, newInstancesIn code extents⟩ := by
  obtain ⟨written, hrecorded, hscan⟩ := scan_of_complete hchain (Annotations.size_blank _)
  have habove : ∀ address, written.aboveWidth address = 0 := by
    intro address
    rw [aboveWidth_of_scan hscan, Annotations.aboveWidth_blank]
  exact ⟨written, ⟨hrecorded, habove⟩, hscan⟩

/-- A scan of blank annotations records the chain and nothing else. -/
theorem exists_chain_of_scan {result : WidthScan}
    (hscan : scan lookup code (.blank code.length) = .ok result) :
    ∃ extents, Tiles (IsInstruction lookup code) 0 extents code.length ∧
      HoldsOnly extents code.length result.annotations ∧
      result.newInstances = newInstancesIn code extents := by
  obtain ⟨extents, hchain, -⟩ := chain_of_scan hscan
  obtain ⟨written, hwritten, hagain⟩ := exists_scan_of_chain hchain
  obtain rfl := Except.ok.inj (hscan.symm.trans hagain)
  exact ⟨extents, hchain, hwritten, rfl⟩

/-- Two pieces of code that pass give one that passes. -/
theorem scan_append_of_ok {left right : WidthScan} (hlocal : lookup.Local)
    (hleft : scan lookup code (.blank code.length) = .ok left)
    (hright : scan lookup more (.blank more.length) = .ok right) :
    scan lookup (code ++ more) (.blank (code ++ more).length) =
      .ok ⟨left.annotations ++ right.annotations, left.newInstances + right.newInstances⟩ := by
  obtain ⟨extents, hcode, hleftHolds, hleftCount⟩ := exists_chain_of_scan hleft
  obtain ⟨others, hmore, hrightHolds, hrightCount⟩ := exists_chain_of_scan hright
  have hchain := chain_append hlocal hcode hmore
  rw [← List.length_append] at hchain
  obtain ⟨written, hwritten, hscan⟩ := exists_scan_of_chain hchain
  rw [List.length_append] at hwritten
  rw [hscan, hleftHolds.append hcode hrightHolds hwritten, newInstancesIn_append hcode,
    hleftCount, hrightCount]

/-- The defect of the second piece is found behind the first. -/
theorem scan_append_of_error {left : WidthScan} {halt : Halt} (hlocal : lookup.Local)
    (hleft : scan lookup code (.blank code.length) = .ok left)
    (hright : scan lookup more (.blank more.length) = .error halt) :
    ∃ defect, halt = .rejected defect ∧
      scan lookup (code ++ more) (.blank (code ++ more).length) =
        .error (.rejected (defect.shift code.length)) := by
  obtain ⟨extents, hcode, -⟩ := chain_of_scan hleft
  obtain ⟨others, stop, hmore, hends⟩ := scan_ends lookup (Annotations.size_blank more.length)
  have hchain := chain_append hlocal hcode hmore
  have hsize := Annotations.size_blank (code ++ more).length
  have hdrop : (code ++ more).drop (code.length + stop) = more.drop stop :=
    List.drop_length_add_append stop
  rw [hright] at hends
  cases hends with
  | cut hstop =>
      refine ⟨_, rfl, ?_⟩
      rw [scan_of_cut hchain hsize, List.length_append]
      · rfl
      · rw [List.length_append]
        exact Nat.add_lt_add_left hstop _
  | invalid hstop hzero =>
      refine ⟨_, rfl, ?_⟩
      rw [scan_of_invalid hchain hsize]
      · rw [List.getD_append_right _ _ _ _ (Nat.le_add_right _ _), Nat.add_sub_cancel_left]
        rfl
      · rw [List.length_append]
        exact Nat.add_lt_add_left hstop _
      · rw [hdrop, hzero]
  | insane hstop hwide =>
      refine ⟨_, rfl, ?_⟩
      rw [scan_of_insane hchain hsize, hdrop]
      · rfl
      · rw [List.length_append]
        exact Nat.add_lt_add_left hstop _
      · rw [hdrop]
        exact hwide

end Scans

/-! ## Recording widths -/

/-- What recording the widths of a method on blank annotations comes to. -/
def freshWidths (method : MethodCode) (sink : Sink) (record : Record) : Except Halt WidthScan :=
  ((recordWidths method dalvikWidth (.blank method.code.length) sink).runFrom record).1

theorem freshWidths_eq (method : MethodCode) (sink : Sink) (record : Record) :
    freshWidths method sink record =
      scan dalvikWidth method.code (.blank method.code.length) :=
  outcome_recordWidths method dalvikWidth (.blank method.code.length) sink record

/-- Behind code that passes, other code passes or fails as it does on its own:
it adds its own annotations and instructions, or its own defect at addresses
that are just further on. -/
theorem recordWidths_append {method more whole : MethodCode} {sink : Sink} {record : Record}
    {left : WidthScan} (hcode : whole.code = method.code ++ more.code)
    (hleft : freshWidths method sink record = .ok left) :
    (∀ count, (∃ both, freshWidths whole sink record = .ok both ∧
        both.newInstances = left.newInstances + count) ↔
      ∃ right, freshWidths more sink record = .ok right ∧ right.newInstances = count) ∧
    (∀ right, freshWidths more sink record = .ok right →
      freshWidths whole sink record =
        .ok ⟨left.annotations ++ right.annotations, left.newInstances + right.newInstances⟩) ∧
    ∀ halt, freshWidths more sink record = .error halt →
      ∃ defect, halt = .rejected defect ∧
        freshWidths whole sink record = .error (.rejected (defect.shift method.code.length)) := by
  simp only [freshWidths_eq, hcode] at hleft ⊢
  refine ⟨?_, ?_, ?_⟩
  · intro count
    constructor
    · intro ⟨both, hboth, hcount⟩
      cases hmore : scan dalvikWidth more.code (.blank more.code.length) with
      | ok right =>
          rw [scan_append_of_ok dalvikWidth_local hleft hmore] at hboth
          obtain rfl := Except.ok.inj hboth
          exact ⟨right, rfl, Nat.add_left_cancel hcount⟩
      | error halt =>
          obtain ⟨defect, -, hfailed⟩ := scan_append_of_error dalvikWidth_local hleft hmore
          rw [hfailed] at hboth
          cases hboth
    · rintro ⟨right, hright, rfl⟩
      exact ⟨_, scan_append_of_ok dalvikWidth_local hleft hright, rfl⟩
  · intro right hright
    exact scan_append_of_ok dalvikWidth_local hleft hright
  · intro halt hhalt
    exact scan_append_of_error dalvikWidth_local hleft hhalt

/-- An allocation and a switch table of one entry. -/
def switchTable : MethodCode :=
  ⟨[0x0022, 0x0000, 0x0100, 0x0001, 0x0000, 0x0000, 0x0000, 0x0000], [], [], none⟩

theorem freshWidths_switchTable :
    freshWidths switchTable .recorder [] = .ok ⟨⟨#[2, 0, 6, 0, 0, 0, 0, 0]⟩, 1⟩ := by
  rw [freshWidths_eq]
  cbv

/-- Behind the table, another allocation and then a signature without its
header. -/
theorem recordWidths_append_switchTable :
    freshWidths switchTable .recorder [] = .ok ⟨⟨#[2, 0, 6, 0, 0, 0, 0, 0]⟩, 1⟩ ∧
      freshWidths { switchTable with code := switchTable.code ++ [0x0022, 0x0000] } .recorder [] =
        .ok ⟨⟨#[2, 0, 6, 0, 0, 0, 0, 0, 2, 0]⟩, 2⟩ ∧
      freshWidths { switchTable with code := switchTable.code ++ [0x0300] } .recorder [] =
        .error (.rejected (.cutInstruction 12 9)) := by
  refine ⟨freshWidths_switchTable, ?_, ?_⟩
  · have hmore : freshWidths ⟨[0x0022, 0x0000], [], [], none⟩ .recorder [] =
        .ok ⟨⟨#[2, 0]⟩, 1⟩ := by
      rw [freshWidths_eq]
      cbv
    exact (recordWidths_append rfl freshWidths_switchTable).2.1 _ hmore
  · have hmore : freshWidths ⟨[0x0300], [], [], none⟩ .recorder [] =
        .error (.rejected (.cutInstruction 4 1)) := by
      rw [freshWidths_eq]
      cbv
    have hcode : MethodCode.code { switchTable with code := switchTable.code ++ [0x0300] } =
        switchTable.code ++ [0x0300] := rfl
    obtain ⟨defect, hdefect, hwhole⟩ :=
      (recordWidths_append hcode freshWidths_switchTable).2.2 _ hmore
    obtain rfl := Halt.rejected.inj hdefect
    exact hwhole

end Prepass

end DalvikPrepass
