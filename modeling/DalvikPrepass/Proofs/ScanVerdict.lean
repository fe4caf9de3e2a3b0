import Mathlib
import DalvikPrepass.Proofs.CutCode

/-!
# Verdicts of the scan

How a scan ends is told by the chain from the start of the code and nothing
else: it stops where the chain does, with the defect that keeps the chain from
going on, or passes if the chain lands on the end of the code.  What the
annotations held before has no influence, and of it only the widths on the
chain are replaced.
-/

namespace DalvikPrepass.Prepass

/-- The chain from the start of the code leads to the address. -/
def Reaches (lookup : WidthLookup) (code : List CodeUnit) (address : Nat) : Prop :=
  ∃ extents, Tiles (IsInstruction lookup code) 0 extents address

/-- No instruction of the chain starts at the address. -/
def ChainStops (lookup : WidthLookup) (code : List CodeUnit) (address : Nat) : Prop :=
  ∀ width, 0 < width → ¬IsInstruction lookup code address width

/-- A scan of the code, on annotations that held `before`, ends as the chain
says. -/
structure FollowsChain (lookup : WidthLookup) (code : List CodeUnit) (before : Annotations)
    (outcome : Except Halt WidthScan) : Prop where
  invalid : ∀ address unit,
    outcome = .error (.rejected (.invalidInstruction address unit)) ↔
      Reaches lookup code address ∧ code[address]? = some unit ∧ lookup (code.drop address) = 0
  insane : ∀ address width,
    outcome = .error (.rejected (.insaneWidth address width)) ↔
      Reaches lookup code address ∧ address < code.length ∧
        lookup (code.drop address) = width ∧ 65535 < width
  cut : ∀ stop length,
    outcome = .error (.rejected (.cutInstruction stop length)) ↔
      Reaches lookup code stop ∧ code.length < stop ∧ length = code.length
  stop_le : ∀ stop, Reaches lookup code stop → stop ≤ code.length + 65534
  ok : ∀ count,
    (∃ result, outcome = .ok result ∧ result.newInstances = count) ↔
      ∃ extents, Tiles (IsInstruction lookup code) 0 extents code.length ∧
        newInstancesIn code extents = count
  /-- Only the low bits of the words on the chain are written. -/
  written : ∀ result extents, outcome = .ok result →
    Tiles (IsInstruction lookup code) 0 extents code.length →
      Recorded extents before result.annotations ∧
        result.annotations.aboveWidth = before.aboveWidth
  /-- There is no way to fail but these. -/
  refused : ∀ halt, outcome = .error halt →
    (∃ address unit, halt = .rejected (.invalidInstruction address unit)) ∨
      (∃ address width, halt = .rejected (.insaneWidth address width)) ∨
      ∃ stop length, halt = .rejected (.cutInstruction stop length)
  /-- Each instruction leads further on, so there are no more of them than code
  units. -/
  progress : ∀ extents stop, Tiles (IsInstruction lookup code) 0 extents stop →
    (boundaries extents stop).Pairwise (· < ·) ∧ extents.length ≤ code.length
  /-- The chain comes to an end, and to just one. -/
  ends : ∃! stop, Reaches lookup code stop ∧ ChainStops lookup code stop

section Chain

variable {lookup : WidthLookup} {code : List CodeUnit} {start stop other : Nat}
  {extents others : List (Nat × Nat)}

theorem chain_stop_le (hchain : Tiles (IsInstruction lookup code) start extents stop)
    (hstart : start ≤ code.length + 65534) : stop ≤ code.length + 65534 := by
  induction hchain with
  | nil => exact hstart
  | cons _ hextent _ ih =>
      obtain ⟨hinside, -, hwidth⟩ := hextent
      apply ih
      calc _ ≤ (code.length - 1) + 65535 := Nat.add_le_add (by omega) hwidth
        _ ≤ code.length + 65534 := by omega

theorem boundaries_pairwise {IsExtent : Nat → Nat → Prop}
    (htiles : Tiles IsExtent start extents stop) :
    (boundaries extents stop).Pairwise (· < ·) := by
  rw [boundaries, List.pairwise_append]
  refine ⟨htiles.pairwise_lt.map Prod.fst fun _ _ hlt => hlt, List.pairwise_singleton _ _, ?_⟩
  intro address haddress last hlast
  obtain rfl := List.mem_singleton.mp hlast
  obtain ⟨⟨_, width⟩, hmem, rfl⟩ := List.mem_map.mp haddress
  obtain ⟨-, hpositive, hend, -⟩ := htiles.of_mem hmem
  exact Nat.lt_of_lt_of_le (Nat.lt_add_of_pos_right hpositive) hend

/-- Every instruction takes at least one code unit of its own. -/
theorem chain_length_le (hchain : Tiles (IsInstruction lookup code) start extents stop) :
    extents.length ≤ code.length - start := by
  induction hchain with
  | nil => exact Nat.zero_le _
  | cons hpositive hextent _ ih =>
      have hinside := hextent.1
      rw [List.length_cons]
      omega

/-- Two chains from the same address that both stop are the same. -/
theorem chain_stop_unique (hchain : Tiles (IsInstruction lookup code) start extents stop)
    (hother : Tiles (IsInstruction lookup code) start others other)
    (hstop : ChainStops lookup code stop) (hotherStop : ChainStops lookup code other) :
    stop = other := by
  induction hchain generalizing others with
  | nil =>
      cases hother with
      | nil => rfl
      | cons hpositive hextent _ => exact absurd hextent (hstop _ hpositive)
  | cons hpositive hextent _ ih =>
      cases hother with
      | nil => exact absurd hextent (hotherStop _ hpositive)
      | cons _ hfirst hrest =>
          obtain rfl := hextent.2.1.symm.trans hfirst.2.1
          exact ih hrest hstop

/-- Where the chain cannot go on. -/
theorem chainStops_iff :
    ChainStops lookup code stop ↔ code.length ≤ stop ∨ lookup (code.drop stop) = 0 ∨
      Annotations.maxWidth < lookup (code.drop stop) := by
  constructor
  · intro hstops
    by_contra hgoesOn
    simp only [not_or, Nat.not_le, Nat.not_lt] at hgoesOn
    obtain ⟨hinside, hnonzero, hwidth⟩ := hgoesOn
    exact hstops _ (Nat.pos_of_ne_zero hnonzero) ⟨hinside, rfl, hwidth⟩
  · rintro (hend | hzero | hwide) width hpositive ⟨hinside, rfl, hwidth⟩
    · exact Nat.not_lt_of_le hend hinside
    · exact hpositive.ne' hzero
    · exact Nat.not_lt_of_le hwidth hwide

end Chain

/-- The scan follows the chain to where it stops. -/
theorem scan_followsChain {code : List CodeUnit} {annotations : Annotations}
    (hsize : annotations.size = code.length) (lookup : WidthLookup) :
    FollowsChain lookup code annotations (scan lookup code annotations) := by
  obtain ⟨extents, stop, hchain, hends⟩ := scan_ends lookup hsize
  have hreaches : Reaches lookup code stop := ⟨extents, hchain⟩
  constructor
  case invalid =>
    intro address unit
    constructor
    · intro houtcome
      rw [houtcome] at hends
      cases hends with
      | invalid hstop hzero =>
          refine ⟨hreaches, ?_, hzero⟩
          rw [List.getD_eq_getElem _ _ hstop, List.getElem?_eq_getElem hstop]
    · rintro ⟨⟨_, hother⟩, hunit, hzero⟩
      obtain ⟨hinside, rfl⟩ := List.getElem?_eq_some_iff.mp hunit
      rw [scan_of_invalid hother hsize hinside hzero, List.getD_eq_getElem _ _ hinside]
  case insane =>
    intro address width
    constructor
    · intro houtcome
      rw [houtcome] at hends
      cases hends with
      | insane hstop hwide => exact ⟨hreaches, hstop, rfl, hwide⟩
    · rintro ⟨⟨_, hother⟩, hinside, rfl, hwide⟩
      exact scan_of_insane hother hsize hinside hwide
  case cut =>
    intro last length
    constructor
    · intro houtcome
      rw [houtcome] at hends
      cases hends with
      | cut hstop => exact ⟨hreaches, hstop, rfl⟩
    · rintro ⟨⟨_, hother⟩, hbeyond, rfl⟩
      exact scan_of_cut hother hsize hbeyond
  case stop_le =>
    rintro last ⟨_, hother⟩
    exact chain_stop_le hother (Nat.zero_le _)
  case ok =>
    intro count
    constructor
    · rintro ⟨result, hscan, rfl⟩
      obtain ⟨others, hother, -, hcount⟩ := chain_of_scan hscan
      exact ⟨others, hother, hcount.symm⟩
    · rintro ⟨others, hother, rfl⟩
      obtain ⟨written, -, hscan⟩ := scan_of_complete hother hsize
      exact ⟨_, hscan, rfl⟩
  case written =>
    intro result others hscan hother
    obtain ⟨found, hfound, hrecorded, -⟩ := chain_of_scan hscan
    rw [chain_unique hother hfound]
    exact ⟨hrecorded, aboveWidth_of_scan hscan⟩
  case refused =>
    intro halt hhalt
    rw [hhalt] at hends
    cases hends with
    | invalid => exact .inl ⟨_, _, rfl⟩
    | insane => exact .inr (.inl ⟨_, _, rfl⟩)
    | cut => exact .inr (.inr ⟨_, _, rfl⟩)
  case progress =>
    intro others last hother
    exact ⟨boundaries_pairwise hother, chain_length_le hother⟩
  case ends =>
    obtain ⟨found, last, hfound, hrefused⟩ := exists_chain lookup code 0
    have hstops := chainStops_iff.mpr hrefused
    refine ⟨last, ⟨⟨found, hfound⟩, hstops⟩, ?_⟩
    rintro other ⟨⟨_, hother⟩, hotherStops⟩
    exact chain_stop_unique hother hfound hotherStops hstops

/-- Recording the widths of any code with any lookup ends as the chain says,
whatever is in the annotations. -/
theorem recordWidths_followsChain {method : MethodCode} {annotations : Annotations}
    (hsize : annotations.size = method.code.length) (lookup : WidthLookup) (sink : Sink)
    (record : Record) :
    FollowsChain lookup method.code annotations
      ((recordWidths method lookup annotations sink).runFrom record).1 := by
  rw [outcome_recordWidths]
  exact scan_followsChain hsize lookup

/-- A lookup that finds one good instruction and then a width that no annotation
holds, on annotations that are not blank. -/
theorem recordWidths_followsChain_switchTable :
    (⟨#[0x30007, 0xffffffff, 0, 0, 5, 0, 0, 1]⟩ : Annotations).size = switchTable.code.length ∧
      ((recordWidths switchTable (fun rest => if rest.length = 8 then 2 else 70000)
          ⟨#[0x30007, 0xffffffff, 0, 0, 5, 0, 0, 1]⟩ .recorder).runFrom []).1 =
        .error (.rejected (.insaneWidth 2 70000)) := by
  have hsize : (⟨#[0x30007, 0xffffffff, 0, 0, 5, 0, 0, 1]⟩ : Annotations).size =
      switchTable.code.length := rfl
  have hfollows := recordWidths_followsChain hsize
    (fun rest => if rest.length = 8 then 2 else 70000) .recorder []
  have hreaches : Reaches (fun rest => if rest.length = 8 then 2 else 70000) switchTable.code 2 :=
    ⟨[(0, 2)], .cons (by decide) ⟨by decide, rfl, by decide⟩ .nil⟩
  exact ⟨hsize, (hfollows.insane 2 70000).mpr ⟨hreaches, by decide, rfl, by decide⟩⟩

end DalvikPrepass.Prepass
