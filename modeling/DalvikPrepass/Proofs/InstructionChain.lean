import Mathlib
import DalvikPrepass.Proofs.PlainChecks
import DalvikPrepass.Proofs.AnnotationWords
import DalvikPrepass.Proofs.Extents

/-!
# The chain of instructions

From any address the width lookup leads from one instruction to the next, until
the code ends or no instruction that fits an annotation is there.  The scan
follows that chain: it annotates each instruction on it with its width, counts
the `new-instance` instructions among them, and does nothing else.
-/

namespace DalvikPrepass.Prepass

/-- An instruction of this width starts at the address, and its width fits an
annotation. -/
def IsInstruction (lookup : WidthLookup) (code : List CodeUnit) (address width : Nat) : Prop :=
  address < code.length ∧ lookup (code.drop address) = width ∧ width ≤ Annotations.maxWidth

/-- The number of extents that start with a unit whose low byte is that of
`new-instance`. -/
def newInstancesIn (code : List CodeUnit) (extents : List (Nat × Nat)) : Nat :=
  extents.countP fun extent => (code.getD extent.1 0).toNat % 0x100 = 0x22

/-- There is just one chain from one address to another. -/
theorem chain_unique {lookup : WidthLookup} {code : List CodeUnit} {start stop : Nat}
    {extents others : List (Nat × Nat)}
    (hextents : Tiles (IsInstruction lookup code) start extents stop)
    (hothers : Tiles (IsInstruction lookup code) start others stop) : extents = others := by
  apply Tiles.unique _ hextents hothers
  intro address left right hleft hright
  exact hleft.2.1.symm.trans hright.2.1

/-- The chain from an address goes on until the code ends or its next width is
refused. -/
theorem exists_chain (lookup : WidthLookup) (code : List CodeUnit) (address : Nat) :
    ∃ extents stop, Tiles (IsInstruction lookup code) address extents stop ∧
      (code.length ≤ stop ∨ lookup (code.drop stop) = 0 ∨
        Annotations.maxWidth < lookup (code.drop stop)) := by
  -- The code that is left gets shorter with every instruction.
  generalize hleft : code.length - address = left
  induction left using Nat.strong_induction_on generalizing address with
  | h left ih =>
      by_cases hend : code.length ≤ address
      · exact ⟨[], address, .nil, .inl hend⟩
      · by_cases hzero : lookup (code.drop address) = 0
        · exact ⟨[], address, .nil, .inr (.inl hzero)⟩
        · by_cases hwide : Annotations.maxWidth < lookup (code.drop address)
          · exact ⟨[], address, .nil, .inr (.inr hwide)⟩
          · have hpositive := Nat.pos_of_ne_zero hzero
            obtain ⟨extents, stop, htiles, hstop⟩ :=
              ih (code.length - (address + lookup (code.drop address))) (by omega) _ rfl
            have hextent : IsInstruction lookup code address (lookup (code.drop address)) :=
              ⟨Nat.lt_of_not_le hend, rfl, Nat.le_of_not_lt hwide⟩
            exact ⟨_, stop, .cons hpositive hextent htiles, hstop⟩

/-- Every extent has its width after the writes, and all else is as before. -/
structure Recorded (extents : List (Nat × Nat)) (before after : Annotations) : Prop where
  size : after.size = before.size
  width : ∀ address width, (address, width) ∈ extents → after.width address = width
  others : ∀ address, (∀ width, (address, width) ∉ extents) →
    after.width address = before.width address
  has : after.has = before.has

theorem Recorded.refl (annotations : Annotations) : Recorded [] annotations annotations where
  size := rfl
  width _ _ hmem := absurd hmem List.not_mem_nil
  others _ _ := rfl
  has := rfl

/-- Later widths are recorded behind the first one and leave it alone. -/
theorem Recorded.cons {IsExtent : Nat → Nat → Prop} {address width stop : Nat}
    {extents : List (Nat × Nat)} {before middle after : Annotations} {field : UInt16}
    (hpositive : 0 < width) (hrest : Tiles IsExtent (address + width) extents stop)
    (hset : before.setWidth address field = .ok middle) (hfield : field.toNat = width)
    (hafter : Recorded extents middle after) :
    Recorded ((address, width) :: extents) before after where
  size := hafter.size.trans (Annotations.size_of_update hset)
  width other extent hmem := by
    rcases List.mem_cons.mp hmem with hhead | htail
    · obtain ⟨rfl, rfl⟩ := Prod.mk.inj hhead
      have hnot : ∀ width, (other, width) ∉ extents := by
        intro width hwidth
        have hle := (hrest.of_mem hwidth).1
        omega
      rw [hafter.others other hnot, Annotations.width_of_setWidth hset, Function.update_self,
        hfield]
    · exact hafter.width other extent htail
  others other hnot := by
    have hne : other ≠ address := by
      rintro rfl
      exact hnot width List.mem_cons_self
    rw [hafter.others other fun extent hmem => hnot extent (List.mem_cons_of_mem _ hmem),
      Annotations.width_of_setWidth hset, Function.update_of_ne hne]
  has := hafter.has.trans (Annotations.has_of_setWidth hset)

/-- On blank annotations the starts are those of the chain. -/
theorem Recorded.starts_of_blank {lookup : WidthLookup} {code : List CodeUnit}
    {extents : List (Nat × Nat)} {size : Nat} {annotations : Annotations}
    (htiles : Tiles (IsInstruction lookup code) 0 extents code.length)
    (hrecorded : Recorded extents (.blank size) annotations) : annotations.starts = extents := by
  have hirreflexive : Std.Irrefl fun left right : Nat × Nat => left.1 < right.1 :=
    ⟨fun extent => Nat.lt_irrefl extent.1⟩
  apply List.Pairwise.eq_of_mem_iff annotations.starts_pairwise htiles.pairwise_lt
  intro ⟨address, width⟩
  rw [Annotations.mem_starts]
  constructor
  · intro ⟨hwidth, hnonzero⟩
    by_contra hnot
    have hnone : ∀ extent, (address, extent) ∉ extents := by
      intro extent hmem
      rw [hrecorded.width address extent hmem] at hwidth
      exact hnot (hwidth ▸ hmem)
    rw [hrecorded.others address hnone, Annotations.width_blank] at hwidth
    exact hnonzero hwidth.symm
  · intro hmem
    exact ⟨hrecorded.width address width hmem, (htiles.of_mem hmem).2.1.ne'⟩

theorem newInstancesIn_cons (code : List CodeUnit) (extent : Nat × Nat)
    (extents : List (Nat × Nat)) :
    newInstancesIn code (extent :: extents) =
      newInstanceCount (code.getD extent.1 0) + newInstancesIn code extents := by
  have hopcode : Opcode.valueOf (code.getD extent.1 0) = Opcode.newInstance ↔
      (code.getD extent.1 0).toNat % 0x100 = 0x22 := by
    rw [← UInt8.toNat_inj]
    rfl
  rw [newInstancesIn, List.countP_cons, newInstanceCount, Nat.add_comm]
  simp only [hopcode, decide_eq_true_eq]
  rfl

/-- One step of the scan, at an address inside the code. -/
theorem scanFrom_of_lt {lookup : WidthLookup} {code : List CodeUnit} {address : Nat}
    (haddress : address < code.length) (annotations : Annotations) (count : Nat) :
    scanFrom lookup address (code.drop address) annotations count =
      if lookup (code.drop address) = 0 then
        .error (.rejected (.invalidInstruction address (code.getD address 0)))
      else if Annotations.maxWidth < lookup (code.drop address) then
        .error (.rejected (.insaneWidth address (lookup (code.drop address))))
      else
        match annotations.setWidth address (UInt16.ofNat (lookup (code.drop address))) with
        | .error fault => .error (.fault fault)
        | .ok updated =>
            scanFrom lookup (address + lookup (code.drop address))
              (code.drop (address + lookup (code.drop address))) updated
              (count + newInstanceCount (code.getD address 0)) := by
  have hunit : code.getD address 0 = code[address] := List.getD_eq_getElem code 0 haddress
  rw [hunit, List.drop_eq_getElem_cons haddress, scanFrom]
  simp only [← List.drop_eq_getElem_cons haddress, List.drop_drop]
  rfl

theorem scanFrom_of_length_le {lookup : WidthLookup} {code : List CodeUnit} {address : Nat}
    (haddress : code.length ≤ address) (annotations : Annotations) (count : Nat) :
    scanFrom lookup address (code.drop address) annotations count =
      .ok (address, ⟨annotations, count⟩) := by
  rw [List.drop_eq_nil_of_le haddress, scanFrom]

/-- The scan passes over a piece of the chain and records just that piece. -/
theorem scanFrom_of_tiles {lookup : WidthLookup} {code : List CodeUnit} {address stop : Nat}
    {extents : List (Nat × Nat)} {annotations : Annotations}
    (htiles : Tiles (IsInstruction lookup code) address extents stop)
    (hsize : annotations.size = code.length) (count : Nat) :
    ∃ written, Recorded extents annotations written ∧
      scanFrom lookup address (code.drop address) annotations count =
        scanFrom lookup stop (code.drop stop) written (count + newInstancesIn code extents) := by
  induction htiles generalizing annotations count with
  | nil => exact ⟨annotations, .refl annotations, rfl⟩
  | @cons first width last rest hpositive hextent hrest ih =>
      obtain ⟨hfirst, rfl, hwidth⟩ := hextent
      have hfield : (UInt16.ofNat (lookup (code.drop first))).toNat = lookup (code.drop first) :=
        UInt16.toNat_ofNat_of_lt' (Nat.lt_succ_of_le hwidth)
      obtain ⟨updated, hset⟩ : ∃ updated, annotations.setWidth first
          (UInt16.ofNat (lookup (code.drop first))) = .ok updated := by
        apply Annotations.update_of_lt
        rw [hsize]
        exact hfirst
      have hupdated : updated.size = code.length :=
        (Annotations.size_of_update hset).trans hsize
      obtain ⟨written, hrecorded, hscan⟩ :=
        ih hupdated (count + newInstanceCount (code.getD first 0))
      refine ⟨written, .cons hpositive hrest hset hfield hrecorded, ?_⟩
      rw [scanFrom_of_lt hfirst, if_neg hpositive.ne', if_neg (Nat.not_lt_of_le hwidth), hset,
        newInstancesIn_cons, ← Nat.add_assoc]
      exact hscan

/-- The scan writes widths and nothing else. -/
theorem aboveWidth_of_scanFrom {lookup : WidthLookup} {address stop count : Nat}
    {rest : List CodeUnit} {annotations : Annotations} {result : WidthScan}
    (hscan : scanFrom lookup address rest annotations count = .ok (stop, result)) :
    result.annotations.aboveWidth = annotations.aboveWidth := by
  fun_induction scanFrom lookup address rest annotations count with
  | case1 address annotations count =>
      obtain ⟨-, rfl⟩ := Prod.mk.inj (Except.ok.inj hscan)
      rfl
  | case2 | case3 | case4 => simp at hscan
  | case5 address annotations count unit units width hzero hwidth updated hset _ ih =>
      rw [ih hscan, Annotations.aboveWidth_of_setWidth hset]

/-- The scan writes widths only. -/
theorem aboveWidth_of_scan {lookup : WidthLookup} {code : List CodeUnit}
    {annotations : Annotations} {result : WidthScan}
    (hscan : scan lookup code annotations = .ok result) :
    result.annotations.aboveWidth = annotations.aboveWidth := by
  rw [scan] at hscan
  repeat' split at hscan
  · simp at hscan
  · simp at hscan
  · rename_i hfrom _
    obtain rfl := Except.ok.inj hscan
    exact aboveWidth_of_scanFrom hfrom
  · simp at hscan

section Ends

variable {lookup : WidthLookup} {code : List CodeUnit} {annotations : Annotations}
  {extents : List (Nat × Nat)} {stop : Nat}

/-- A chain that fills the code is recorded. -/
theorem scan_of_complete (htiles : Tiles (IsInstruction lookup code) 0 extents code.length)
    (hsize : annotations.size = code.length) :
    ∃ written, Recorded extents annotations written ∧
      scan lookup code annotations = .ok ⟨written, newInstancesIn code extents⟩ := by
  obtain ⟨written, hrecorded, hscan⟩ := scanFrom_of_tiles htiles hsize 0
  rw [List.drop_zero, Nat.zero_add, scanFrom_of_length_le (Nat.le_refl _)] at hscan
  refine ⟨written, hrecorded, ?_⟩
  rw [scan, if_neg (not_not_intro hsize), hscan]
  simp only [if_true]

/-- A chain that overshoots the code is rejected. -/
theorem scan_of_cut (htiles : Tiles (IsInstruction lookup code) 0 extents stop)
    (hsize : annotations.size = code.length) (hstop : code.length < stop) :
    scan lookup code annotations = .error (.rejected (.cutInstruction stop code.length)) := by
  obtain ⟨written, -, hscan⟩ := scanFrom_of_tiles htiles hsize 0
  rw [List.drop_zero, scanFrom_of_length_le (Nat.le_of_lt hstop)] at hscan
  rw [scan, if_neg (not_not_intro hsize), hscan]
  simp only [if_neg hstop.ne']

/-- A chain that comes to no instruction is rejected there. -/
theorem scan_of_invalid (htiles : Tiles (IsInstruction lookup code) 0 extents stop)
    (hsize : annotations.size = code.length) (hstop : stop < code.length)
    (hzero : lookup (code.drop stop) = 0) :
    scan lookup code annotations =
      .error (.rejected (.invalidInstruction stop (code.getD stop 0))) := by
  obtain ⟨written, -, hscan⟩ := scanFrom_of_tiles htiles hsize 0
  rw [List.drop_zero, scanFrom_of_lt hstop, if_pos hzero] at hscan
  rw [scan, if_neg (not_not_intro hsize), hscan]

/-- A chain that comes to a width without a place in a word is rejected there. -/
theorem scan_of_insane (htiles : Tiles (IsInstruction lookup code) 0 extents stop)
    (hsize : annotations.size = code.length) (hstop : stop < code.length)
    (hwide : Annotations.maxWidth < lookup (code.drop stop)) :
    scan lookup code annotations =
      .error (.rejected (.insaneWidth stop (lookup (code.drop stop)))) := by
  obtain ⟨written, -, hscan⟩ := scanFrom_of_tiles htiles hsize 0
  rw [List.drop_zero, scanFrom_of_lt hstop, if_neg (Nat.ne_zero_of_lt hwide),
    if_pos hwide] at hscan
  rw [scan, if_neg (not_not_intro hsize), hscan]

end Ends

/-- How the scan ends after a chain that leads from the start of the code to
`stop`. -/
inductive ScanEnds (lookup : WidthLookup) (code : List CodeUnit) (annotations : Annotations)
    (extents : List (Nat × Nat)) (stop : Nat) : Except Halt WidthScan → Prop
  | complete {written : Annotations} (hstop : stop = code.length)
      (hrecorded : Recorded extents annotations written) :
      ScanEnds lookup code annotations extents stop (.ok ⟨written, newInstancesIn code extents⟩)
  | cut (hstop : code.length < stop) :
      ScanEnds lookup code annotations extents stop
        (.error (.rejected (.cutInstruction stop code.length)))
  | invalid (hstop : stop < code.length) (hzero : lookup (code.drop stop) = 0) :
      ScanEnds lookup code annotations extents stop
        (.error (.rejected (.invalidInstruction stop (code.getD stop 0))))
  | insane (hstop : stop < code.length)
      (hwide : Annotations.maxWidth < lookup (code.drop stop)) :
      ScanEnds lookup code annotations extents stop
        (.error (.rejected (.insaneWidth stop (lookup (code.drop stop)))))

/-- These are all the ways in which a scan can end. -/
theorem scan_ends (lookup : WidthLookup) {code : List CodeUnit} {annotations : Annotations}
    (hsize : annotations.size = code.length) :
    ∃ extents stop, Tiles (IsInstruction lookup code) 0 extents stop ∧
      ScanEnds lookup code annotations extents stop (scan lookup code annotations) := by
  obtain ⟨extents, stop, htiles, hrefused⟩ := exists_chain lookup code 0
  refine ⟨extents, stop, htiles, ?_⟩
  rcases Nat.lt_trichotomy stop code.length with hinside | rfl | hbeyond
  · rcases hrefused.resolve_left (Nat.not_le_of_lt hinside) with hzero | hwide
    · rw [scan_of_invalid htiles hsize hinside hzero]
      exact .invalid hinside hzero
    · rw [scan_of_insane htiles hsize hinside hwide]
      exact .insane hinside hwide
  · obtain ⟨written, hrecorded, hscan⟩ := scan_of_complete htiles hsize
    rw [hscan]
    exact .complete rfl hrecorded
  · rw [scan_of_cut htiles hsize hbeyond]
    exact .cut hbeyond

/-- A scan that succeeds has recorded a chain from the start of the code to its
end. -/
theorem chain_of_scan {lookup : WidthLookup} {code : List CodeUnit} {annotations : Annotations}
    {result : WidthScan} (hscan : scan lookup code annotations = .ok result) :
    ∃ extents, Tiles (IsInstruction lookup code) 0 extents code.length ∧
      Recorded extents annotations result.annotations ∧
      result.newInstances = newInstancesIn code extents := by
  by_cases hsize : annotations.size = code.length
  · obtain ⟨extents, stop, htiles, hends⟩ := scan_ends lookup hsize
    rw [hscan] at hends
    cases hends with
    | complete hstop hrecorded =>
        subst hstop
        exact ⟨extents, htiles, hrecorded, rfl⟩
  · rw [scan, if_pos hsize] at hscan
    simp at hscan

end DalvikPrepass.Prepass
