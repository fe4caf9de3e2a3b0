import Mathlib
import DalvikPrepass.Proofs.PlainChecks
import DalvikPrepass.Proofs.AnnotationWords
import DalvikPrepass.Proofs.Extents
import DalvikPrepass.Proofs.HandlerGrammar

/-!
# Marks of the exception table

On annotations whose instructions lie end to end the walk over a try range
stays on instruction starts, so it never meets a gap and marks just the
instructions in the range.  The handlers are marked at the starts they name.
Neither changes a width, so each walk finds the instructions as the one before
it did.
-/

namespace DalvikPrepass

/-- The instructions lie end to end and fill the code. -/
def Annotations.Tiled (annotations : Annotations) : Prop :=
  Tiles (fun address width => annotations.width address = width) 0 annotations.starts
    annotations.size

/-- An instruction starts where the list of starts has it. -/
theorem Annotations.isStart_iff {annotations : Annotations} {address : Nat} :
    annotations.isStart address = true ↔ ∃ width, (address, width) ∈ annotations.starts := by
  rw [isStart, bne_iff_ne]
  constructor
  · intro hwidth
    exact ⟨annotations.width address, mem_starts.mpr ⟨rfl, hwidth⟩⟩
  · intro ⟨width, hmem⟩
    obtain ⟨rfl, hwidth⟩ := mem_starts.mp hmem
    exact hwidth

namespace Prepass

/-! ## What marking changes -/

/-- The mark was added at some addresses, and all else is as before. -/
structure Marked (mark : Mark) (added : Nat → Prop) (before after : Annotations) : Prop where
  size : after.size = before.size
  width : after.width = before.width
  has : ∀ address, after.has mark address = true ↔ before.has mark address = true ∨ added address
  others : ∀ other, other ≠ mark → after.has other = before.has other

namespace Marked

variable {mark : Mark} {before middle after : Annotations} {added left right : Nat → Prop}

theorem refl (mark : Mark) (annotations : Annotations) :
    Marked mark (fun _ => False) annotations annotations where
  size := rfl
  width := rfl
  has _ := (or_false _).symm.to_iff
  others _ _ := rfl

theorem trans (hfirst : Marked mark left before middle) (hsecond : Marked mark right middle after) :
    Marked mark (fun address => left address ∨ right address) before after where
  size := hsecond.size.trans hfirst.size
  width := hsecond.width.trans hfirst.width
  has address := by rw [hsecond.has, hfirst.has, or_assoc]
  others other hother := (hsecond.others other hother).trans (hfirst.others other hother)

theorem congr (hmarked : Marked mark left before after)
    (hadded : ∀ address, left address ↔ right address) : Marked mark right before after := by
  have hsame : left = right := by
    funext address
    exact propext (hadded address)
  rw [← hsame]
  exact hmarked

/-- One mark is set at one address. -/
theorem of_setMark {address : Nat} (hset : before.setMark mark address true = .ok after) :
    Marked mark (fun other => other = address) before after where
  size := Annotations.size_of_update hset
  width := Annotations.width_of_setMark hset
  has other := by
    rw [Annotations.has_of_setMark hset]
    by_cases hother : other = address
    · simp [hother]
    · simp [hother]
  others _ hother := Annotations.has_of_setMark_of_ne hset hother

/-- Marking moves no instruction. -/
theorem isStart (hmarked : Marked mark added before after) : after.isStart = before.isStart := by
  funext address
  rw [Annotations.isStart, Annotations.isStart, hmarked.width]

theorem starts (hmarked : Marked mark added before after) : after.starts = before.starts :=
  Annotations.starts_congr hmarked.size hmarked.width

theorem tiled (hmarked : Marked mark added before after) (htiled : before.Tiled) :
    after.Tiled := by
  rw [Annotations.Tiled, hmarked.starts, hmarked.size, hmarked.width]
  exact htiled

end Marked

/-- At an instruction a mark can be set. -/
theorem exists_setMark {annotations : Annotations} {address : Nat} (mark : Mark)
    (hstart : annotations.isStart address = true) :
    ∃ updated, annotations.setMark mark address true = .ok updated ∧
      Marked mark (fun other => other = address) annotations updated := by
  have hinside : address < annotations.size :=
    Annotations.lt_size_of_width_ne_zero (bne_iff_ne.mp hstart)
  obtain ⟨updated, hset⟩ := Annotations.update_of_lt
    (fun word => if true then word ||| mark.bit else word &&& ~~~mark.bit) hinside
  exact ⟨updated, hset, .of_setMark hset⟩

/-! ## Try ranges -/

/-- One step of the walk marks the instruction it stands on and goes on after
it. -/
theorem markInstructions_step {annotations : Annotations} {address stop width : Nat}
    (hbefore : address < stop) (hwidth : annotations.width address = width) (hpositive : 0 < width) :
    ∃ updated, Marked .inTry (fun place => place = address) annotations updated ∧
      markInstructions stop address annotations =
        markInstructions stop (address + width) updated := by
  have hstart : annotations.isStart address = true := by
    rw [Annotations.isStart, hwidth, bne_iff_ne]
    exact hpositive.ne'
  obtain ⟨updated, hset, hupdated⟩ := exists_setMark .inTry hstart
  refine ⟨updated, hupdated, ?_⟩
  rw [markInstructions, dif_pos hbefore]
  simp only [hwidth, dif_neg hpositive.ne', hset]

/-- The walk over a tiling marks its extents up to `stop`. -/
theorem markInstructions_of_tiles {width : Nat → Nat} {address stop last : Nat}
    {extents : List (Nat × Nat)} {annotations : Annotations}
    (htiles : Tiles (fun address extent => width address = extent) address extents last)
    (hwidth : annotations.width = width) (hstop : stop ≤ last) :
    ∃ marked, markInstructions stop address annotations = .ok marked ∧
      Marked .inTry (fun place => place < stop ∧ ∃ extent, (place, extent) ∈ extents)
        annotations marked := by
  -- The tiling speaks of the widths alone, which stay the same while the marks change.
  induction htiles generalizing annotations with
  | nil =>
      rw [markInstructions, dif_neg (Nat.not_lt_of_le hstop)]
      exact ⟨annotations, rfl, (Marked.refl .inTry annotations).congr (by simp)⟩
  | @cons first extent last rest hpositive hextent hrest ih =>
      by_cases hbefore : first < stop
      · have hfound : annotations.width first = extent := by rw [hwidth, hextent]
        obtain ⟨updated, hupdated, hstep⟩ := markInstructions_step hbefore hfound hpositive
        obtain ⟨marked, hrun, hmarked⟩ := ih (hupdated.width.trans hwidth) hstop
        refine ⟨marked, hstep.trans hrun, (hupdated.trans hmarked).congr ?_⟩
        intro place
        have hplace : place = first → place < stop := by
          rintro rfl
          exact hbefore
        simp only [List.mem_cons, Prod.mk.injEq, exists_or, exists_and_left, exists_eq, and_true,
          and_or_left, and_iff_right_of_imp hplace]
      · refine ⟨annotations, ?_, (Marked.refl .inTry annotations).congr ?_⟩
        · rw [markInstructions, dif_neg hbefore]
        · intro place
          have htiles : Tiles _ first ((first, extent) :: rest) last :=
            .cons hpositive hextent hrest
          constructor
          · exact False.elim
          · intro ⟨hplace, width, hmem⟩
            apply hbefore
            exact Nat.lt_of_le_of_lt (htiles.of_mem hmem).1 hplace

/-- The walk over a range that starts on an instruction marks the instructions
that start in the range. -/
theorem markInstructions_of_tiled {annotations : Annotations} {start stop : Nat}
    (htiled : annotations.Tiled) (hstart : annotations.isStart start = true)
    (hstop : stop ≤ annotations.size) :
    ∃ marked, markInstructions stop start annotations = .ok marked ∧
      Marked .inTry
        (fun place => annotations.isStart place = true ∧ start ≤ place ∧ place < stop)
        annotations marked := by
  obtain ⟨width, hmem⟩ := Annotations.isStart_iff.mp hstart
  obtain ⟨earlier, later, hstarts, hearlier, hlater⟩ := htiled.exists_from hmem
  obtain ⟨marked, hrun, hmarked⟩ := markInstructions_of_tiles hlater rfl hstop
  refine ⟨marked, hrun, hmarked.congr ?_⟩
  intro place
  rw [Annotations.isStart_iff, hstarts]
  constructor
  · intro ⟨hplace, extent, hlaterMem⟩
    exact ⟨⟨extent, List.mem_append_right earlier hlaterMem⟩, (hlater.of_mem hlaterMem).1, hplace⟩
  · intro ⟨⟨extent, hanyMem⟩, hfrom, hplace⟩
    refine ⟨hplace, extent, ?_⟩
    rcases List.mem_append.mp hanyMem with hearlierMem | hlaterMem
    · obtain ⟨-, hpositive, hend, -⟩ := hearlier.of_mem hearlierMem
      omega
    · exact hlaterMem

/-- Some try range covers the address. -/
def Covered (items : List TryItem) (address : Nat) : Prop :=
  ∃ item ∈ items, item.start.toNat ≤ address ∧ address < item.stop

/-- What a range has to satisfy. -/
theorem rangeDefect_eq_none_iff {annotations : Annotations} {length : Nat} {item : TryItem} :
    rangeDefect annotations length item = none ↔
      item.start.toNat < item.stop ∧ item.stop ≤ length ∧
        annotations.isStart item.start.toNat = true := by
  rw [rangeDefect]
  constructor
  · intro hnone
    split at hnone
    · simp at hnone
    · split at hnone
      · simp at hnone
      · split at hnone
        · rename_i hproper hinside hstart
          exact ⟨by omega, by omega, hstart⟩
        · simp at hnone
  · intro ⟨hproper, hinside, hstart⟩
    rw [if_neg (by omega), if_neg (by omega), if_pos hstart]

theorem rangeDefect_of_marked {mark : Mark} {added : Nat → Prop} {before after : Annotations}
    (hmarked : Marked mark added before after) (length : Nat) :
    rangeDefect after length = rangeDefect before length := by
  funext item
  rw [rangeDefect, rangeDefect, hmarked.isStart]

/-- One step over the table marks the range and leaves everything that is
checked about the others as it was. -/
theorem markRanges_step {item : TryItem} {annotations : Annotations} (htiled : annotations.Tiled)
    (hitem : rangeDefect annotations annotations.size item = none) (items : List TryItem) :
    ∃ middle,
      Marked .inTry (fun place => annotations.isStart place = true ∧ item.start.toNat ≤ place ∧
        place < item.stop) annotations middle ∧
      rangeDefect middle middle.size = rangeDefect annotations annotations.size ∧
      markRanges annotations.size (item :: items) annotations =
        markRanges middle.size items middle := by
  obtain ⟨-, hinside, hstart⟩ := rangeDefect_eq_none_iff.mp hitem
  obtain ⟨middle, hrun, hmiddle⟩ := markInstructions_of_tiled htiled hstart hinside
  refine ⟨middle, hmiddle, ?_, ?_⟩
  · rw [rangeDefect_of_marked hmiddle, hmiddle.size]
  · rw [markRanges, hitem, hmiddle.size]
    simp only [hrun]

/-- Ranges without a defect are all marked. -/
theorem markRanges_of_none {items : List TryItem} {annotations : Annotations}
    (htiled : annotations.Tiled)
    (hnone : items.findSome? (rangeDefect annotations annotations.size) = none) :
    ∃ marked, markRanges annotations.size items annotations = .ok marked ∧
      Marked .inTry (fun place => annotations.isStart place = true ∧ Covered items place)
        annotations marked := by
  induction items generalizing annotations with
  | nil =>
      refine ⟨annotations, rfl, (Marked.refl .inTry annotations).congr ?_⟩
      simp [Covered]
  | cons item items ih =>
      obtain ⟨hitem, hitems⟩ : rangeDefect annotations annotations.size item = none ∧
          items.findSome? (rangeDefect annotations annotations.size) = none := by
        rw [List.findSome?_eq_none_iff] at hnone ⊢
        exact List.forall_mem_cons.mp hnone
      obtain ⟨middle, hmiddle, hsame, hstep⟩ := markRanges_step htiled hitem items
      rw [← hsame] at hitems
      obtain ⟨marked, hrest, hmarked⟩ := ih (hmiddle.tiled htiled) hitems
      refine ⟨marked, hstep.trans hrest, (hmiddle.trans hmarked).congr ?_⟩
      intro place
      rw [hmiddle.isStart, ← and_or_left, Covered, Covered]
      simp only [List.mem_cons, exists_eq_or_imp]

/-- The first range with a defect decides. -/
theorem markRanges_of_some {items : List TryItem} {annotations : Annotations} {defect : Defect}
    (htiled : annotations.Tiled)
    (hsome : items.findSome? (rangeDefect annotations annotations.size) = some defect) :
    markRanges annotations.size items annotations = .error (.rejected defect) := by
  induction items generalizing annotations with
  | nil => simp at hsome
  | cons item items ih =>
      rw [List.findSome?_cons] at hsome
      cases hitem : rangeDefect annotations annotations.size item with
      | some first =>
          rw [hitem] at hsome
          obtain rfl := Option.some.inj hsome
          rw [markRanges, hitem]
      | none =>
          rw [hitem] at hsome
          obtain ⟨middle, hmiddle, hsame, hstep⟩ := markRanges_step htiled hitem items
          rw [← hsame] at hsome
          rw [hstep]
          exact ih (hmiddle.tiled htiled) hsome

/-! ## Handlers -/

/-- One step over the handlers marks the start of the first. -/
theorem markTargets_step {handler : Handler} {annotations : Annotations}
    (hstart : annotations.isStart handler.address.toNat = true) (handlers : List Handler) :
    ∃ middle, Marked .branchTarget (fun place => place = handler.address.toNat) annotations middle ∧
      markTargets (handler :: handlers) annotations = markTargets handlers middle := by
  obtain ⟨middle, hset, hmiddle⟩ := exists_setMark .branchTarget hstart
  refine ⟨middle, hmiddle, ?_⟩
  rw [markTargets]
  simp only [hstart, if_true, hset]

/-- Handlers that all start on an instruction are all marked. -/
theorem markTargets_of_none {handlers : List Handler} {annotations : Annotations}
    (hnone : handlers.find? (fun handler => !annotations.isStart handler.address.toNat) = none) :
    ∃ marked, markTargets handlers annotations = .ok marked ∧
      Marked .branchTarget (fun place => ∃ handler ∈ handlers, handler.address.toNat = place)
        annotations marked := by
  induction handlers generalizing annotations with
  | nil =>
      refine ⟨annotations, rfl, (Marked.refl .branchTarget annotations).congr ?_⟩
      simp
  | cons handler handlers ih =>
      obtain ⟨hstart, hothers⟩ : annotations.isStart handler.address.toNat = true ∧
          handlers.find? (fun handler => !annotations.isStart handler.address.toNat) = none := by
        simpa only [List.find?_eq_none, List.forall_mem_cons, Bool.not_eq_true,
          Bool.not_eq_false'] using hnone
      obtain ⟨middle, hmiddle, hstep⟩ := markTargets_step hstart handlers
      rw [← hmiddle.isStart] at hothers
      obtain ⟨marked, hrest, hmarked⟩ := ih hothers
      refine ⟨marked, hstep.trans hrest, (hmiddle.trans hmarked).congr ?_⟩
      intro place
      rw [eq_comm]
      simp only [List.mem_cons, exists_eq_or_imp]

/-- The first handler that does not start on an instruction decides. -/
theorem markTargets_of_some {handlers : List Handler} {annotations : Annotations}
    {handler : Handler}
    (hsome : handlers.find? (fun handler => !annotations.isStart handler.address.toNat) =
      some handler) :
    markTargets handlers annotations =
      .error (.rejected (.badHandlerTarget handler.address.toNat)) := by
  induction handlers generalizing annotations with
  | nil => simp at hsome
  | cons first handlers ih =>
      rw [List.find?_cons] at hsome
      cases hstart : annotations.isStart first.address.toNat with
      | false =>
          simp only [hstart, Bool.not_false, Option.some.injEq] at hsome
          rw [markTargets, ← hsome]
          simp only [hstart]
          rfl
      | true =>
          obtain ⟨middle, hmiddle, hstep⟩ := markTargets_step hstart handlers
          simp only [hstart, Bool.not_true] at hsome
          rw [← hmiddle.isStart] at hsome
          rw [hstep]
          exact ih hsome

/-- A list that can be read to its end is checked handler by handler. -/
theorem markHandlers_of_holds {data : Bytes} {groups : List (List Handler)}
    (hholds : HandlerList.Holds data groups) (annotations : Annotations) :
    markHandlers data annotations =
      (markTargets groups.flatten annotations).map fun marked => (groups.length, marked) := by
  obtain ⟨found, stop, hwalk, hending, rfl⟩ := HandlerList.walk_of_holds hholds
  obtain ⟨-, hpartial⟩ := HandlerList.holds_of_walk hwalk hending
  have hhandlers : found.handlers = found.handlerGroups.flatten := by
    rw [HandlerWalk.handlers, hpartial, List.append_nil, HandlerWalk.handlerGroups,
      List.flatMap_def]
  rw [markHandlers, hwalk]
  simp only [hhandlers, hending]
  cases markTargets found.handlerGroups.flatten annotations with
  | error halt => rfl
  | ok marked =>
      rw [HandlerWalk.handlerGroups, List.length_map]
      rfl

/-- A handler list that passes can be read. -/
theorem holds_of_markHandlers {data : Bytes} {annotations : Annotations}
    {result : Nat × Annotations} (hmark : markHandlers data annotations = .ok result) :
    ∃ groups, HandlerList.Holds data groups := by
  rw [markHandlers] at hmark
  split at hmark
  · simp at hmark
  · rename_i found hwalk
    split at hmark
    · simp at hmark
    · simp at hmark
    · rename_i hending
      exact ⟨_, (HandlerList.holds_of_walk hwalk hending).1⟩

/-- A handler list that passes can be read, and marks the addresses of its
handlers, which are all instruction starts. -/
theorem marked_of_markHandlers {data : Bytes} {annotations : Annotations}
    {result : Nat × Annotations} (hmark : markHandlers data annotations = .ok result) :
    ∃ groups, HandlerList.Holds data groups ∧
      (∀ handler ∈ groups.flatten, annotations.isStart handler.address.toNat = true) ∧
      Marked .branchTarget
        (fun place => ∃ handler ∈ groups.flatten, handler.address.toNat = place)
        annotations result.2 := by
  obtain ⟨groups, hholds⟩ := holds_of_markHandlers hmark
  rw [markHandlers_of_holds hholds] at hmark
  cases hfind : groups.flatten.find? fun handler =>
      !annotations.isStart handler.address.toNat with
  | some handler =>
      rw [markTargets_of_some hfind] at hmark
      simp [Except.map] at hmark
  | none =>
      obtain ⟨marked, hrun, hmarked⟩ := markTargets_of_none hfind
      rw [hrun] at hmark
      obtain rfl := Except.ok.inj hmark
      refine ⟨groups, hholds, ?_, hmarked⟩
      intro handler hhandler
      simpa using List.find?_eq_none.mp hfind handler hhandler

end Prepass

end DalvikPrepass
