import Mathlib
import DalvikPrepass.Proofs.ScanComposition

/-!
# Code cut short

Code that passes may be cut anywhere.  A cut at an instruction boundary leaves
code that passes with what was found before the cut.  Any other cut leaves an
instruction that is still recognised and does not fit, also where it goes
through the header of a payload and thereby changes its width.
-/

namespace DalvikPrepass

/-- The annotations of the first `size` code units. -/
def Annotations.take (annotations : Annotations) (size : Nat) : Annotations :=
  ⟨annotations.words.take size⟩

theorem Annotations.take_append (left right : Annotations) :
    (left ++ right).take left.size = left := by
  change (⟨(left.words ++ right.words).take left.words.size⟩ : Annotations) = left
  rw [Array.take_eq_extract, Array.extract_append]
  simp

namespace Prepass

/-- Where the extents start, and where the last one stops. -/
def boundaries (extents : List (Nat × Nat)) (stop : Nat) : List Nat :=
  extents.map Prod.fst ++ [stop]

/-- A place is a boundary of a tiling if the tiling splits there. -/
theorem mem_boundaries_iff {IsExtent : Nat → Nat → Prop} {start stop place : Nat}
    {extents : List (Nat × Nat)} (htiles : Tiles IsExtent start extents stop) :
    place ∈ boundaries extents stop ↔
      ∃ earlier later, extents = earlier ++ later ∧ Tiles IsExtent start earlier place ∧
        Tiles IsExtent place later stop := by
  rw [boundaries, List.mem_append, List.mem_singleton, List.mem_map]
  constructor
  · rintro (⟨⟨_, width⟩, hmem, rfl⟩ | rfl)
    · exact htiles.exists_from hmem
    · exact ⟨extents, [], (List.append_nil _).symm, htiles, .nil⟩
  · rintro ⟨earlier, later, rfl, -, hlater⟩
    cases hlater with
    | nil => exact .inr rfl
    | cons _ _ _ => exact .inl ⟨_, List.mem_append_right earlier List.mem_cons_self, rfl⟩

theorem filter_of_split {IsExtent : Nat → Nat → Prop} {start place stop : Nat}
    {earlier later : List (Nat × Nat)} (hearlier : Tiles IsExtent start earlier place)
    (hlater : Tiles IsExtent place later stop) :
    (earlier ++ later).filter (fun extent => extent.1 < place) = earlier := by
  have hbefore : ∀ extent ∈ earlier, decide (extent.1 < place) = true := by
    intro extent hmem
    obtain ⟨-, hpositive, hend, -⟩ := hearlier.of_mem hmem
    exact decide_eq_true (by omega)
  have hbehind : ∀ extent ∈ later, ¬decide (extent.1 < place) = true := by
    intro extent hmem
    rw [decide_eq_true_eq]
    exact Nat.not_lt_of_le (hlater.of_mem hmem).1
  rw [List.filter_append, List.filter_eq_self.mpr hbefore, List.filter_eq_nil_iff.mpr hbehind,
    List.append_nil]

/-! ## Chains of cut code -/

section Cuts

variable {code more : List CodeUnit}

theorem isInstruction_of_append {address width : Nat}
    (hextent : IsInstruction dalvikWidth (code ++ more) address width) (hpositive : 0 < width)
    (hend : address + width ≤ code.length) : IsInstruction dalvikWidth code address width := by
  have hinside : address < code.length := by omega
  obtain ⟨-, rfl, hwidth⟩ := hextent
  obtain ⟨hrest, hdrop⟩ := rest_append hinside more
  rw [hdrop] at hend hwidth ⊢
  have hfits : dalvikWidth (code.drop address ++ more) ≤ (code.drop address).length := by
    rw [List.length_drop]
    omega
  exact ⟨hinside, dalvikWidth_of_append_le hrest hfits, hwidth⟩

/-- An instruction that the cut goes through is still one, perhaps narrower,
that ends past the cut. -/
theorem exists_isInstruction_of_cut {address width : Nat}
    (hextent : IsInstruction dalvikWidth (code ++ more) address width)
    (hinside : address < code.length) (hcut : code.length < address + width) :
    ∃ cutWidth, IsInstruction dalvikWidth code address cutWidth ∧
      code.length < address + cutWidth := by
  obtain ⟨-, rfl, hwidth⟩ := hextent
  obtain ⟨hrest, hdrop⟩ := rest_append hinside more
  rw [hdrop] at hcut hwidth
  have hlonger : (code.drop address).length < dalvikWidth (code.drop address ++ more) := by
    rw [List.length_drop]
    omega
  obtain ⟨hcutLonger, hcutWidth⟩ := dalvikWidth_of_cut hrest hlonger hwidth
  rw [List.length_drop] at hcutLonger
  exact ⟨_, ⟨hinside, rfl, hcutWidth⟩, by omega⟩

/-- The part of a chain that ends inside the code does not look behind it. -/
theorem chain_of_append {extents : List (Nat × Nat)} {stop : Nat}
    (hchain : Tiles (IsInstruction dalvikWidth (code ++ more)) 0 extents stop)
    (hstop : stop ≤ code.length) : Tiles (IsInstruction dalvikWidth code) 0 extents stop := by
  apply hchain.mono
  intro address width hmem hextent
  obtain ⟨-, hpositive, hend, -⟩ := hchain.of_mem hmem
  exact isInstruction_of_append hextent hpositive (Nat.le_trans hend hstop)

/-- Code that is cut between two instructions passes. -/
theorem scan_of_boundary {earlier : List (Nat × Nat)} {whole : WidthScan}
    (hwhole : scan dalvikWidth (code ++ more) (.blank (code ++ more).length) = .ok whole)
    (hchain : Tiles (IsInstruction dalvikWidth (code ++ more)) 0 earlier code.length) :
    scan dalvikWidth code (.blank code.length) =
      .ok ⟨whole.annotations.take code.length, newInstancesIn (code ++ more) earlier⟩ := by
  have hcode := chain_of_append hchain (Nat.le_refl _)
  obtain ⟨written, hwritten, hscan⟩ := exists_scan_of_chain hcode
  have hcount : newInstancesIn (code ++ more) (earlier ++ shiftExtents code.length []) =
      newInstancesIn code earlier + newInstancesIn more [] := newInstancesIn_append hcode
  cases hmore : scan dalvikWidth more (.blank more.length) with
  | ok right =>
      rw [scan_append_of_ok dalvikWidth_local hscan hmore] at hwhole
      obtain rfl := Except.ok.inj hwhole
      rw [shiftExtents, List.map_nil, List.append_nil] at hcount
      rw [hscan, hcount, ← hwritten.size_eq, Annotations.take_append]
      rfl
  | error halt =>
      obtain ⟨defect, -, hfailed⟩ := scan_append_of_error dalvikWidth_local hscan hmore
      rw [hfailed] at hwhole
      cases hwhole

/-- Code that is cut inside an instruction ends in one that does not fit. -/
theorem scan_of_cut_inside {earlier : List (Nat × Nat)} {address width : Nat}
    (hchain : Tiles (IsInstruction dalvikWidth (code ++ more)) 0 earlier address)
    (hextent : IsInstruction dalvikWidth (code ++ more) address width)
    (hinside : address < code.length) (hcut : code.length < address + width) :
    ∃ stop, code.length < stop ∧
      scan dalvikWidth code (.blank code.length) =
        .error (.rejected (.cutInstruction stop code.length)) := by
  obtain ⟨cutWidth, hcutExtent, hlonger⟩ := exists_isInstruction_of_cut hextent hinside hcut
  have hbefore := chain_of_append hchain (Nat.le_of_lt hinside)
  have hlast : Tiles (IsInstruction dalvikWidth code) address [(address, cutWidth)]
      (address + cutWidth) := .cons (by omega) hcutExtent .nil
  exact ⟨_, hlonger, scan_of_cut (hbefore.append hlast) (Annotations.size_blank _) hlonger⟩

end Cuts

/-! ## Recording widths -/

/-- Code that passes and is cut to `size` units passes just if the cut is at a
boundary, with the widths and the count of what is left.  Otherwise its last
instruction runs past the cut. -/
theorem recordWidths_take {method : MethodCode} {sink : Sink} {record : Record}
    {whole : WidthScan} (hwhole : freshWidths method sink record = .ok whole) :
    ∃ extents, Tiles (IsInstruction dalvikWidth method.code) 0 extents method.code.length ∧
      whole.annotations.starts = extents ∧
      ∀ size ≤ method.code.length,
        (size ∈ boundaries extents method.code.length →
          freshWidths { method with code := method.code.take size } sink record =
            .ok ⟨whole.annotations.take size,
              newInstancesIn method.code (extents.filter fun extent => extent.1 < size)⟩) ∧
        (size ∉ boundaries extents method.code.length →
          ∃ stop, size < stop ∧
            freshWidths { method with code := method.code.take size } sink record =
              .error (.rejected (.cutInstruction stop size))) := by
  simp only [freshWidths_eq] at hwhole ⊢
  obtain ⟨extents, hchain, hholds, -⟩ := exists_chain_of_scan hwhole
  refine ⟨extents, hchain, hholds.recorded.starts_of_blank hchain, ?_⟩
  intro size hsize
  obtain ⟨code, more, hcode, rfl⟩ : ∃ code more, method.code = code ++ more ∧
      code.length = size :=
    ⟨method.code.take size, method.code.drop size, (List.take_append_drop size _).symm,
      List.length_take_of_le hsize⟩
  rw [hcode] at hwhole hchain hsize
  rw [hcode, List.take_left, mem_boundaries_iff hchain]
  constructor
  · rintro ⟨earlier, later, rfl, hearlier, hlater⟩
    rw [filter_of_split hearlier hlater]
    exact scan_of_boundary hwhole hearlier
  · intro hnone
    obtain ⟨earlier, later, last, rfl, hearlier, hlater, hlast⟩ :=
      hchain.exists_at (Nat.zero_le _) hsize
    rcases hlast with rfl | ⟨width, rest, rfl, hinside, hcut⟩
    · exact absurd ⟨earlier, later, rfl, hearlier, hlater⟩ hnone
    · have hextent := (hlater.of_mem List.mem_cons_self).2.2.2
      exact scan_of_cut_inside hearlier hextent hinside hcut

/-- The cuts are in front of the switch table and behind its signature. -/
theorem recordWidths_take_switchTable :
    freshWidths switchTable .recorder [] = .ok ⟨⟨#[2, 0, 6, 0, 0, 0, 0, 0]⟩, 1⟩ ∧
      freshWidths { switchTable with code := [0x0022, 0x0000] } .recorder [] =
        .ok ⟨⟨#[2, 0]⟩, 1⟩ ∧
      ∃ stop, 3 < stop ∧
        freshWidths { switchTable with code := [0x0022, 0x0000, 0x0100] } .recorder [] =
          .error (.rejected (.cutInstruction stop 3)) := by
  obtain ⟨extents, -, hstarts, hcuts⟩ := recordWidths_take freshWidths_switchTable
  have hextents : [(0, 2), (2, 6)] = extents := hstarts
  subst hextents
  exact ⟨freshWidths_switchTable, (hcuts 2 (by decide)).1 (by decide),
    (hcuts 3 (by decide)).2 (by decide)⟩

end Prepass

end DalvikPrepass
