import Mathlib

/-!
# Extents that tile a range

An extent is an address and a width.  Extents tile a range if each one starts
where the one before it ends, the first at the start of the range, and the last
ends at its stop.
-/

namespace DalvikPrepass

/-- The extents lie end to end from `start` to `stop`, none is empty, and each
is one of `IsExtent`. -/
inductive Tiles (IsExtent : Nat → Nat → Prop) : Nat → List (Nat × Nat) → Nat → Prop
  | nil {start : Nat} : Tiles IsExtent start [] start
  | cons {start width stop : Nat} {extents : List (Nat × Nat)} (hpositive : 0 < width)
      (hextent : IsExtent start width) (hrest : Tiles IsExtent (start + width) extents stop) :
      Tiles IsExtent start ((start, width) :: extents) stop

/-- The extents, further on by some distance. -/
def shiftExtents (distance : Nat) (extents : List (Nat × Nat)) : List (Nat × Nat) :=
  extents.map fun extent => (distance + extent.1, extent.2)

theorem mem_shiftExtents {distance address width : Nat} {extents : List (Nat × Nat)} :
    (distance + address, width) ∈ shiftExtents distance extents ↔ (address, width) ∈ extents := by
  simp [shiftExtents]

theorem le_of_mem_shiftExtents {distance address width : Nat} {extents : List (Nat × Nat)}
    (hmem : (address, width) ∈ shiftExtents distance extents) : distance ≤ address := by
  obtain ⟨extent, -, hextent⟩ := List.mem_map.mp hmem
  rw [← (Prod.mk.inj hextent).1]
  exact Nat.le_add_right _ _

namespace Tiles

variable {IsExtent Other : Nat → Nat → Prop} {start stop : Nat}
  {extents others : List (Nat × Nat)}

/-- Extents of one kind are extents of another if each of them is. -/
theorem mono (htiles : Tiles IsExtent start extents stop)
    (hother : ∀ address width, (address, width) ∈ extents → IsExtent address width →
      Other address width) : Tiles Other start extents stop := by
  induction htiles with
  | nil => exact .nil
  | cons hpositive hextent _ ih =>
      apply Tiles.cons hpositive
      · exact hother _ _ List.mem_cons_self hextent
      · apply ih
        intro address width hmem
        exact hother address width (List.mem_cons_of_mem _ hmem)

/-- The widths fill the space between start and stop. -/
theorem start_add_sum (htiles : Tiles IsExtent start extents stop) :
    start + (extents.map Prod.snd).sum = stop := by
  induction htiles with
  | nil => rfl
  | cons _ _ _ ih =>
      rw [List.map_cons, List.sum_cons, ← Nat.add_assoc]
      exact ih

theorem start_le (htiles : Tiles IsExtent start extents stop) : start ≤ stop := by
  rw [← htiles.start_add_sum]
  exact Nat.le_add_right _ _

/-- Every extent of a tiling is a proper one inside the range. -/
theorem of_mem (htiles : Tiles IsExtent start extents stop) {address width : Nat}
    (hmem : (address, width) ∈ extents) :
    start ≤ address ∧ 0 < width ∧ address + width ≤ stop ∧ IsExtent address width := by
  induction htiles with
  | nil => exact absurd hmem List.not_mem_nil
  | @cons first extent last rest hpositive hextent hrest ih =>
      rcases List.mem_cons.mp hmem with hhead | htail
      · obtain ⟨rfl, rfl⟩ := Prod.mk.inj hhead
        exact ⟨Nat.le_refl _, hpositive, hrest.start_le, hextent⟩
      · obtain ⟨hstart, hrestOfMem⟩ := ih htail
        exact ⟨Nat.le_of_add_right_le hstart, hrestOfMem⟩

/-- Extents are listed in the order of their addresses. -/
theorem pairwise_lt (htiles : Tiles IsExtent start extents stop) :
    extents.Pairwise fun left right => left.1 < right.1 := by
  induction htiles with
  | nil => exact .nil
  | cons hpositive _ hrest ih =>
      apply List.Pairwise.cons
      · intro ⟨address, width⟩ hmem
        exact Nat.lt_of_lt_of_le (Nat.lt_add_of_pos_right hpositive) (hrest.of_mem hmem).1
      · exact ih

/-- A tiling splits before each of its extents. -/
theorem exists_from (htiles : Tiles IsExtent start extents stop) {address width : Nat}
    (hmem : (address, width) ∈ extents) :
    ∃ earlier later, extents = earlier ++ later ∧ Tiles IsExtent start earlier address ∧
      Tiles IsExtent address later stop := by
  induction htiles with
  | nil => exact absurd hmem List.not_mem_nil
  | @cons first extent last rest hpositive hextent hrest ih =>
      rcases List.mem_cons.mp hmem with hhead | htail
      · obtain ⟨rfl, rfl⟩ := Prod.mk.inj hhead
        exact ⟨[], _, rfl, .nil, .cons hpositive hextent hrest⟩
      · obtain ⟨earlier, later, rfl, hearlier, hlater⟩ := ih htail
        exact ⟨(first, extent) :: earlier, later, rfl, .cons hpositive hextent hearlier, hlater⟩

theorem exists_head (htiles : Tiles IsExtent start extents stop) (hstop : start < stop) :
    ∃ width, (start, width) ∈ extents := by
  cases htiles with
  | nil => exact absurd hstop (Nat.lt_irrefl _)
  | cons _ _ _ => exact ⟨_, List.mem_cons_self⟩

/-- Behind an extent that does not end the tiling lies another one. -/
theorem exists_next (htiles : Tiles IsExtent start extents stop) {address width : Nat}
    (hmem : (address, width) ∈ extents) (hstop : address + width < stop) :
    ∃ next, (address + width, next) ∈ extents := by
  induction htiles with
  | nil => exact absurd hmem List.not_mem_nil
  | cons _ _ hrest ih =>
      rcases List.mem_cons.mp hmem with hhead | htail
      · obtain ⟨rfl, rfl⟩ := Prod.mk.inj hhead
        obtain ⟨next, hnext⟩ := hrest.exists_head hstop
        exact ⟨next, List.mem_cons_of_mem _ hnext⟩
      · obtain ⟨next, hnext⟩ := ih htail hstop
        exact ⟨next, List.mem_cons_of_mem _ hnext⟩

/-- Two runs of extents that meet are one. -/
theorem append {middle : Nat} (hleft : Tiles IsExtent start extents middle)
    (hright : Tiles IsExtent middle others stop) :
    Tiles IsExtent start (extents ++ others) stop := by
  induction hleft with
  | nil => exact hright
  | cons hpositive hextent _ ih => exact .cons hpositive hextent (ih hright)

/-- A run of extents can be moved. -/
theorem shift {distance : Nat} (htiles : Tiles IsExtent start extents stop)
    (hother : ∀ address width, IsExtent address width → Other (distance + address) width) :
    Tiles Other (distance + start) (shiftExtents distance extents) (distance + stop) := by
  induction htiles with
  | nil => exact .nil
  | cons hpositive hextent _ ih =>
      apply Tiles.cons hpositive
      · exact hother _ _ hextent
      · rw [Nat.add_assoc]
        exact ih

/-- Any place in the range is either where a tiling splits or inside one of its
extents, before which it splits. -/
theorem exists_at (htiles : Tiles IsExtent start extents stop) {place : Nat}
    (hstart : start ≤ place) (hstop : place ≤ stop) :
    ∃ earlier later last, extents = earlier ++ later ∧ Tiles IsExtent start earlier last ∧
      Tiles IsExtent last later stop ∧
      (last = place ∨ ∃ width rest, later = (last, width) :: rest ∧ last < place ∧
        place < last + width) := by
  induction htiles with
  | @nil first =>
      exact ⟨[], [], first, rfl, .nil, .nil, .inl (Nat.le_antisymm hstart hstop)⟩
  | @cons first width last rest hpositive hextent hrest ih =>
      by_cases hnext : first + width ≤ place
      · obtain ⟨earlier, later, middle, rfl, hearlier, hlater, hplace⟩ := ih hnext hstop
        exact ⟨_, later, middle, rfl, .cons hpositive hextent hearlier, hlater, hplace⟩
      · refine ⟨[], _, first, rfl, .nil, .cons hpositive hextent hrest, ?_⟩
        by_cases hfirst : first = place
        · exact .inl hfirst
        · exact .inr ⟨width, rest, rfl, Nat.lt_of_le_of_ne hstart hfirst, Nat.lt_of_not_le hnext⟩

/-- Where the start of an extent tells its width, a range has just one
tiling. -/
theorem unique (hwidth : ∀ address left right, IsExtent address left →
      IsExtent address right → left = right)
    (hleft : Tiles IsExtent start extents stop) (hright : Tiles IsExtent start others stop) :
    extents = others := by
  induction hleft generalizing others with
  | nil =>
      cases hright with
      | nil => rfl
      | cons hpositive _ hrest => exact absurd hrest.start_le (by omega)
  | cons hpositive hextent hrest ih =>
      cases hright with
      | nil => exact absurd hrest.start_le (by omega)
      | cons _ hother hothers =>
          obtain rfl := hwidth _ _ _ hextent hother
          rw [ih hothers]

end Tiles

end DalvikPrepass
