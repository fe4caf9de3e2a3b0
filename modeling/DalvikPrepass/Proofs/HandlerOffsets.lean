import Mathlib
import DalvikPrepass.Proofs.PreparedMethod

/-!
# Offsets into the handler list

A try range names its group of handlers by an offset into the handler list.  The
pre-pass checks the handlers group by group in the order of the list and looks
at no offset.  So the handlers of a range are checked if its offset is the start
of a group.  From an offset inside a group the same bytes can be read as other
handlers, which nobody has checked.
-/

namespace DalvikPrepass

namespace HandlerList

/-- One of the groups that are met on the walk over the list starts at the
offset. -/
def StartsGroup (data : Bytes) (offset : Nat) : Prop :=
  ∃ found, walk data = .ok found ∧ ∃ group ∈ found.groups, group.offset = offset

/-- A group that the walk has read in full is read in the same way from its own
offset. -/
theorem groupAt_of_mem_walkFrom {data : Bytes} {count offset : Nat} {group : HandlerGroupAt}
    (hgroup : group ∈ (walkFrom count (.ofOffset data offset)).groups) :
    ∃ reader after, groupAt data group.offset = .ok reader ∧
      reader.drain = (group.handlers, .ok after) := by
  induction count generalizing offset with
  | zero => simp [walkFrom] at hgroup
  | succ count ih =>
      cases hstart : GroupReader.start (.ofOffset data offset) with
      | error error => simp [walkFrom, hstart] at hgroup
      | ok reader =>
          cases hdrain : reader.drain with
          | mk handlers outcome =>
              cases outcome with
              | error error => simp [walkFrom, hstart, hdrain] at hgroup
              | ok after =>
                  simp only [walkFrom, hstart, hdrain, List.mem_cons] at hgroup
                  rcases hgroup with rfl | hgroup
                  · exact ⟨reader, after, hstart, hdrain⟩
                  · -- The walk goes on at the offset where this group ends.
                    obtain ⟨bytes, -, hpasses⟩ := encodesGroup_of_drain hstart hdrain
                    rw [← Cursor.ofOffset_of_passes hpasses] at hgroup
                    exact ih hgroup

/-- Each group that the walk has met can be read from its own offset. -/
theorem groupAt_of_mem_walk {data : Bytes} {found : HandlerWalk} {group : HandlerGroupAt}
    (hwalk : walk data = .ok found) (hgroup : group ∈ found.groups) :
    ∃ reader after, groupAt data group.offset = .ok reader ∧
      reader.drain = (group.handlers, .ok after) := by
  simp only [walk, bind_eq_ok_iff] at hwalk
  obtain ⟨count, -, first, -, hfound⟩ := hwalk
  obtain rfl := Except.ok.inj hfound
  exact groupAt_of_mem_walkFrom hgroup

end HandlerList

/-- The try range with another offset. -/
def TryItem.redirect (item : TryItem) (offset : UInt32) : TryItem :=
  { item with handlerOffset := offset }

@[simp]
theorem TryItem.start_redirect (item : TryItem) (offset : UInt32) :
    (item.redirect offset).start = item.start := rfl

@[simp]
theorem TryItem.stop_redirect (item : TryItem) (offset : UInt32) :
    (item.redirect offset).stop = item.stop := rfl

/-- The method with another offset in each of its try ranges. -/
def MethodCode.redirect (method : MethodCode) (offset : TryItem → UInt32) : MethodCode :=
  { method with tries := method.tries.map fun item => item.redirect (offset item) }

namespace Prepass

/-! ## The pre-pass and the offsets -/

section Redirect

variable (method : MethodCode) (offset : TryItem → UInt32) (sink : Sink)

theorem recordFrom_redirect (lookup : WidthLookup) (address : Nat) (rest : List CodeUnit)
    (annotations : Annotations) (newInstances : Nat) :
    recordFrom (method.redirect offset) lookup sink address rest annotations newInstances =
      recordFrom method lookup sink address rest annotations newInstances := by
  induction address, rest, annotations, newInstances using recordFrom.induct lookup with
  | case1 => rw [recordFrom, recordFrom]
  | case2 address annotations newInstances unit units width hzero =>
      rw [recordFrom, recordFrom, dif_pos hzero, dif_pos hzero]
      rfl
  | case3 address annotations newInstances unit units width hzero hwide =>
      rw [recordFrom, recordFrom, dif_neg hzero, dif_neg hzero, if_pos hwide, if_pos hwide]
      rfl
  | case4 address annotations newInstances unit units width hzero hwide ih =>
      rw [recordFrom, recordFrom, dif_neg hzero, dif_neg hzero, if_neg hwide, if_neg hwide,
        funext ih]

theorem recordWidths_redirect (lookup : WidthLookup) (annotations : Annotations) :
    recordWidths (method.redirect offset) lookup annotations sink =
      recordWidths method lookup annotations sink := by
  simp only [recordWidths, recordFrom_redirect]
  rfl

theorem checkRange_redirect (item : TryItem) (annotations : Annotations) :
    checkRange (method.redirect offset) sink (item.redirect (offset item)) annotations =
      checkRange method sink item annotations := rfl

theorem coverRanges_redirect (items : List TryItem) (annotations : Annotations) :
    coverRanges (method.redirect offset) sink (items.map fun item => item.redirect (offset item))
        annotations =
      coverRanges method sink items annotations := by
  induction items generalizing annotations with
  | nil => rfl
  | cons item items ih =>
      rw [List.map_cons, coverRanges, coverRanges, checkRange_redirect, TryItem.stop_redirect,
        TryItem.start_redirect]
      simp only [ih]

theorem targetGroup_redirect (reader : GroupReader) (annotations : Annotations) :
    targetGroup (method.redirect offset) sink reader annotations =
      targetGroup method sink reader annotations := by
  induction reader, annotations using targetGroup.induct with
  | case1 reader annotations after hnext =>
      rw [targetGroup_of_next_none hnext, targetGroup_of_next_none hnext]
  | case2 reader annotations item after hnext ih =>
      rw [targetGroup_of_next_some hnext, targetGroup_of_next_some hnext, funext ih]
      rfl

theorem targetGroups_redirect (count first : Nat) (annotations : Annotations) :
    targetGroups (method.redirect offset) sink count first annotations =
      targetGroups method sink count first annotations := by
  induction count generalizing first annotations with
  | zero => rfl
  | succ count ih =>
      simp only [targetGroups, targetGroup_redirect, ih]
      rfl

/-- The pass over the exception table reads no offset into the handler list. -/
theorem markTries_redirect (annotations : Annotations) :
    markTries (method.redirect offset) annotations sink = markTries method annotations sink := by
  have hhandlers (covered : Annotations) :
      targetHandlers (method.redirect offset) sink covered = targetHandlers method sink covered := by
    simp only [targetHandlers, targetGroups_redirect]
    rfl
  have htries : (method.redirect offset).tries =
      method.tries.map fun item => item.redirect (offset item) := rfl
  have hcode : (method.redirect offset).code = method.code := rfl
  simp only [markTries, htries, hcode, hhandlers, coverRanges_redirect, List.isEmpty_map,
    List.length_map]

/-- Preparing a method gives the same result and the same record whatever the
offsets in its try ranges are. -/
theorem prepare_redirect (lookup : WidthLookup) :
    prepare (method.redirect offset) lookup sink = prepare method lookup sink := by
  simp only [prepare, recordWidths_redirect, markTries_redirect]
  rfl

end Redirect

/-! ## Checked groups -/

/-- The group at the offset can be read to its end, and each of its handlers
starts on an instruction that is marked as a target. -/
def Checked (annotations : Annotations) (data : Bytes) (offset : Nat) : Prop :=
  ∃ reader handlers after, HandlerList.groupAt data offset = .ok reader ∧
    reader.drain = (handlers, .ok after) ∧
    ∀ handler ∈ handlers, annotations.isStart handler.address.toNat = true ∧
      annotations.has .branchTarget handler.address.toNat = true

/-- Behind the end of the list no group can be read. -/
theorem not_checked_of_length_le {annotations : Annotations} {data : Bytes} {offset : Nat}
    (hbeyond : data.length ≤ offset) : ¬Checked annotations data offset := by
  rintro ⟨reader, -, -, hread, -, -⟩
  have hrest : Cursor.ofOffset data offset = ⟨[], offset⟩ := by
    rw [Cursor.ofOffset, List.drop_eq_nil_of_le hbeyond]
  rw [HandlerList.groupAt, hrest] at hread
  cases hread

/-- Any method that passes still does so, with the same result, when all its try
ranges are given an offset at which no group can be read. -/
theorem prepare_redirect_length {method : MethodCode} {lookup : WidthLookup} {sink : Sink}
    {record : Record} {prepared : Prepared}
    (hprepare : ((prepare method lookup sink).runFrom record).1 = .ok prepared)
    (hlength : method.handlers.length < UInt32.size) :
    let stray := method.redirect fun _ => UInt32.ofNat method.handlers.length
    ((prepare stray lookup sink).runFrom record).1 = .ok prepared ∧
      ∀ item ∈ stray.tries,
        ¬Checked prepared.annotations stray.handlers item.handlerOffset.toNat := by
  intro stray
  constructor
  · rw [prepare_redirect]
    exact hprepare
  · intro item hitem
    obtain ⟨original, -, rfl⟩ := List.mem_map.mp hitem
    apply not_checked_of_length_le
    exact (UInt32.toNat_ofNat_of_lt hlength).ge

/-- In a method that passes every handler of the list is a marked start. -/
theorem targets_of_prepare {method : MethodCode} {lookup : WidthLookup} {sink : Sink}
    {record : Record} {prepared : Prepared}
    (hprepare : ((prepare method lookup sink).runFrom record).1 = .ok prepared) :
    (∀ address, Targeted method address → prepared.annotations.isStart address = true ∧
        prepared.annotations.has .branchTarget address = true) ∧
      (method.tries ≠ [] → ∃ groups, HandlerList.Holds method.handlers groups) := by
  rw [outcome_prepare] at hprepare
  simp only [bind_eq_ok_iff] at hprepare
  obtain ⟨result, hscan, marked, houtcome, hprepared⟩ := hprepare
  obtain rfl := Except.ok.inj hprepared
  obtain ⟨htiled, -⟩ := tiled_of_scan hscan
  obtain ⟨middle, hmiddle, hmarked, htargets, hholds⟩ := marked_of_triesOutcome htiled houtcome
  refine ⟨?_, hholds⟩
  intro address htargeted
  constructor
  · rw [hmarked.isStart, hmiddle.isStart]
    exact htargets address htargeted
  · rw [hmarked.has]
    exact Or.inr htargeted

/-- In a method that passes, the handlers of every try range whose offset is the
start of a group have been checked. -/
theorem checked_of_prepare {method : MethodCode} {lookup : WidthLookup} {sink : Sink}
    {record : Record} {prepared : Prepared} {item : TryItem}
    (hprepare : ((prepare method lookup sink).runFrom record).1 = .ok prepared)
    (hitem : item ∈ method.tries)
    (hstarts : HandlerList.StartsGroup method.handlers item.handlerOffset.toNat) :
    Checked prepared.annotations method.handlers item.handlerOffset.toNat := by
  obtain ⟨htargets, hholds⟩ := targets_of_prepare hprepare
  have htries : method.tries ≠ [] := List.ne_nil_of_mem hitem
  obtain ⟨groups, hgroups⟩ := hholds htries
  obtain ⟨found, hwalk, group, hgroup, hoffset⟩ := hstarts
  obtain ⟨walked, stop, hwalked, -, rfl⟩ := HandlerList.walk_of_holds hgroups
  obtain rfl := Except.ok.inj (hwalk.symm.trans hwalked)
  obtain ⟨reader, after, hread, hdrain⟩ := HandlerList.groupAt_of_mem_walk hwalk hgroup
  rw [hoffset] at hread
  refine ⟨reader, group.handlers, after, hread, hdrain, ?_⟩
  intro handler hhandler
  apply htargets
  have hlisted : group.handlers ∈ found.handlerGroups := List.mem_map_of_mem hgroup
  exact ⟨htries, found.handlerGroups, hgroups, group.handlers, hlisted, handler, hhandler, rfl⟩

theorem checked_guardedAllocation :
    ((prepare guardedAllocation dalvikWidth .recorder).runFrom []).1 =
        .ok ⟨⟨#[0x10002, 0, 0x20001]⟩, 1⟩ ∧
      ⟨0, 1, 1⟩ ∈ guardedAllocation.tries ∧
      HandlerList.StartsGroup guardedAllocation.handlers 1 ∧
      Checked ⟨#[0x10002, 0, 0x20001]⟩ guardedAllocation.handlers 1 := by
  have hitem : ⟨0, 1, 1⟩ ∈ guardedAllocation.tries := List.mem_singleton.mpr rfl
  have hstarts : HandlerList.StartsGroup guardedAllocation.handlers 1 := by
    refine ⟨⟨[⟨1, [⟨none, 2⟩], 3⟩], [], .ok 3⟩, ?_, _, List.mem_singleton.mpr rfl, rfl⟩
    cbv
  exact ⟨prepare_guardedAllocation, hitem, hstarts,
    checked_of_prepare prepare_guardedAllocation hitem hstarts⟩

/-- A return with a try range over it.  The list has one group of two typed
handlers, both of them the return, and the offset of the range is one byte after
the start of the group.  What is read there is a group of one typed handler,
whose address is past the code. -/
def strayRange : MethodCode :=
  ⟨[0x000e], [⟨0, 1, 2⟩], [1, 2, 1, 0, 7, 0], none⟩

theorem not_checked_strayRange :
    ((prepare strayRange dalvikWidth .recorder).runFrom []).1 = .ok ⟨⟨#[0x30001]⟩, 0⟩ ∧
      ⟨0, 1, 2⟩ ∈ strayRange.tries ∧ ¬Checked ⟨#[0x30001]⟩ strayRange.handlers 2 := by
  refine ⟨?_, List.mem_singleton.mpr rfl, ?_⟩
  · rw [outcome_prepare]
    cbv
  · rintro ⟨reader, handlers, after, hread, hdrain, hchecked⟩
    obtain rfl : (⟨⟨[0, 7, 0], 3⟩, 1, false⟩ : GroupReader) = reader := Except.ok.inj hread
    have hstray : GroupReader.drain ⟨⟨[0, 7, 0], 3⟩, 1, false⟩ =
        ([⟨some 0, 7⟩], .ok ⟨[0], 5⟩) := by
      cbv
    obtain rfl : [⟨some 0, 7⟩] = handlers := congrArg Prod.fst (hstray.symm.trans hdrain)
    have hstart := (hchecked ⟨some 0, 7⟩ (List.mem_singleton.mpr rfl)).1
    exact absurd hstart (by decide)

end Prepass

end DalvikPrepass
