import Mathlib
import DalvikPrepass.Proofs.CutCodeItem
import DalvikPrepass.Proofs.GroupLifeCycle

/-!
# Counts backed by bytes

The counts in a handler list may promise billions of groups and handlers.  But each
count, each type and each address takes a byte at least, so a walk finds no more
than there are bytes to hold it, whether it comes to the end of the list or fails.
A list that is accepted has room for all that its counts promise.
-/

namespace DalvikPrepass

/-! ## Handlers -/

namespace Handler

def typedCount (handlers : List Handler) : Nat :=
  handlers.countP isTyped

def catchAllCount (handlers : List Handler) : Nat :=
  handlers.countP fun handler => !handler.isTyped

/-- The fewest bytes that can hold these handlers. -/
def leastSize (handlers : List Handler) : Nat :=
  2 * typedCount handlers + catchAllCount handlers

theorem typedCount_add_catchAllCount (handlers : List Handler) :
    typedCount handlers + catchAllCount handlers = handlers.length := by
  rw [List.length_eq_countP_add_countP isTyped, typedCount, catchAllCount]
  simp

theorem length_le_leastSize (handlers : List Handler) :
    handlers.length ≤ leastSize handlers := by
  rw [← typedCount_add_catchAllCount, leastSize]
  omega

theorem leastSize_append (handlers others : List Handler) :
    leastSize (handlers ++ others) = leastSize handlers + leastSize others := by
  simp only [leastSize, typedCount, catchAllCount, List.countP_append]
  omega

theorem leastSize_singleton_le {bytes : Bytes} {handler : Handler}
    (hencodes : handler.Encodes bytes) : leastSize [handler] ≤ bytes.length := by
  cases hencodes with
  | @typed first second typeIndex address htype haddress =>
      have hfirst := List.length_pos_iff.mpr htype.1.ne_nil
      have hsecond := List.length_pos_iff.mpr haddress.1.ne_nil
      have hsize : leastSize [⟨some typeIndex, address⟩] = 2 := rfl
      rw [hsize, List.length_append]
      omega
  | catchAll haddress => exact List.length_pos_iff.mpr haddress.1.ne_nil

/-- Written handlers take at least one byte for each value in them. -/
theorem leastSize_le {bytes : Bytes} {handlers : List Handler}
    (hhandlers : Bytes.Sequence Encodes bytes handlers) : leastSize handlers ≤ bytes.length := by
  induction hhandlers with
  | nil => exact Nat.le_refl 0
  | @cons first rest handler handlers hfirst _ ih =>
      rw [← List.singleton_append, leastSize_append, List.length_append]
      exact Nat.add_le_add (leastSize_singleton_le hfirst) ih

end Handler

/-- Whether or not it fails, a reader has passed over the handlers that it found. -/
theorem GroupReader.exists_passes_drain (reader : GroupReader) :
    ∃ bytes last, Bytes.Sequence Handler.Encodes bytes reader.drain.1 ∧
      reader.cursor.Passes bytes last := by
  induction reader using drain.induct with
  | case1 reader after hnext =>
      rw [drain_of_next_none hnext]
      exact ⟨[], reader.cursor, .nil, .refl reader.cursor⟩
  | case2 reader error after hnext =>
      rw [drain_of_next_error hnext]
      exact ⟨[], reader.cursor, .nil, .refl reader.cursor⟩
  | case3 reader handler after hnext _ _ _ _ ih =>
      obtain ⟨rest, last, hrest, hright⟩ := ih
      obtain ⟨first, hfirst, hleft, -⟩ := encodes_of_next hnext
      rw [drain_of_next_ok hnext]
      exact ⟨first ++ rest, last, .cons hfirst hrest, hleft.trans hright⟩

namespace HandlerList

open Handler (leastSize typedCount catchAllCount)

/-! ## Groups -/

theorem groupShape_ne_nil (count : Int32) : groupShape count ≠ [] := by
  intro hnil
  obtain ⟨htyped, hcatchAll⟩ := List.append_eq_nil_iff.mp hnil
  have hzero : count.toInt = 0 := Int.natAbs_eq_zero.mp ((List.replicate_eq_nil_iff true).mp htyped)
  rw [if_pos hzero.le] at hcatchAll
  exact List.cons_ne_nil _ _ hcatchAll

/-- A group has a handler, and a byte for its size. -/
theorem EncodesGroup.room {bytes : Bytes} {handlers : List Handler}
    (hgroup : EncodesGroup bytes handlers) :
    handlers ≠ [] ∧ 1 + leastSize handlers ≤ bytes.length := by
  obtain ⟨hcount, hhandlers, hshape⟩ := hgroup
  constructor
  · rintro rfl
    exact groupShape_ne_nil _ hshape.symm
  · rw [List.length_append]
    exact Nat.add_le_add (List.length_pos_iff.mpr hcount.1.ne_nil) (Handler.leastSize_le hhandlers)

/-- The groups lie back to back, each where the one before it stops.  Each of
them has a handler, and room for its count and its handlers. -/
inductive BackToBack : (start : Nat) → List HandlerGroupAt → (stop : Nat) → Prop
  | nil {place : Nat} : BackToBack place [] place
  | cons {group : HandlerGroupAt} {groups : List HandlerGroupAt} {start stop : Nat}
      (hstart : group.offset = start) (hhandlers : group.handlers ≠ [])
      (hroom : start + (1 + leastSize group.handlers) ≤ group.stop)
      (hrest : BackToBack group.stop groups stop) : BackToBack start (group :: groups) stop

namespace BackToBack

variable {start stop : Nat} {groups : List HandlerGroupAt}

/-- Groups that lie back to back have room for all that they promise. -/
theorem room (hgroups : BackToBack start groups stop) :
    start + groups.length + leastSize (groups.flatMap HandlerGroupAt.handlers) ≤ stop := by
  induction hgroups with
  | nil => exact Nat.le_refl _
  | cons _ _ hroom _ ih =>
      rw [List.length_cons, List.flatMap_cons, Handler.leastSize_append]
      omega

theorem length_le (hgroups : BackToBack start groups stop) :
    groups.length ≤ (groups.flatMap HandlerGroupAt.handlers).length := by
  induction hgroups with
  | nil => exact Nat.le_refl 0
  | cons _ hhandlers _ _ ih =>
      have hpositive := List.length_pos_iff.mpr hhandlers
      rw [List.length_cons, List.flatMap_cons, List.length_append]
      omega

end BackToBack

/-! ## Walks -/

/-- Up to `last` the data of a walk are groups read in full, and behind it there is
still room for the handlers of the group in which the walk fails. -/
structure Backed (cursor : Cursor) (found : HandlerWalk) (last : Nat) : Prop where
  backToBack : BackToBack cursor.position found.groups last
  room : last + leastSize found.partialGroup ≤ cursor.position + cursor.rest.length
  ending : ∀ stop, found.ending = .ok stop → stop = last

namespace Backed

variable {cursor after : Cursor} {found : HandlerWalk}

theorem of_groups_nil (hgroups : found.groups = [])
    (hroom : leastSize found.partialGroup ≤ cursor.rest.length)
    (hending : ∀ stop, found.ending = .ok stop → stop = cursor.position) :
    Backed cursor found cursor.position where
  backToBack := hgroups ▸ .nil
  room := Nat.add_le_add_left hroom _
  ending := hending

/-- A group that has been read in full comes in front of what the walk finds after
it. -/
theorem cons {bytes : Bytes} {handlers : List Handler} {last : Nat}
    (hgroup : EncodesGroup bytes handlers) (hpasses : cursor.Passes bytes after)
    (hafter : Backed after found last) :
    Backed cursor
      { found with groups := ⟨cursor.position, handlers, after.position⟩ :: found.groups } last := by
  obtain ⟨hhandlers, hsize⟩ := hgroup.room
  refine ⟨.cons rfl hhandlers ?_ hafter.backToBack, ?_, hafter.ending⟩
  · rw [hpasses.2]
    exact Nat.add_le_add_left hsize _
  · rw [← hpasses.position_add_length]
    exact hafter.room

end Backed

/-- The handlers that are read before a group breaks off fit what is left. -/
theorem leastSize_drain_le {cursor : Cursor} {reader : GroupReader}
    (hstart : GroupReader.start cursor = .ok reader) :
    leastSize reader.drain.1 ≤ cursor.rest.length := by
  obtain ⟨front, _, -, hleft, -⟩ := GroupReader.encodes_of_start hstart
  obtain ⟨bytes, last, hhandlers, hright⟩ := reader.exists_passes_drain
  have hsize : leastSize reader.drain.1 ≤ bytes.length := Handler.leastSize_le hhandlers
  rw [(hleft.trans hright).1, List.length_append, List.length_append]
  omega

/-- Every walk is backed by the bytes that it has passed, also one that fails. -/
theorem backed_walkFrom (count : Nat) (cursor : Cursor) :
    ∃ last, Backed cursor (walkFrom count cursor) last := by
  -- Only a group read in full moves the walk on; all else ends it where it is.
  fun_induction walkFrom count cursor with
  | case1 cursor =>
      refine ⟨cursor.position, .of_groups_nil rfl (Nat.zero_le _) ?_⟩
      rintro stop ⟨⟩
      rfl
  | case2 count cursor error hstart =>
      refine ⟨cursor.position, .of_groups_nil rfl (Nat.zero_le _) ?_⟩
      rintro stop ⟨⟩
  | case3 count cursor reader hstart handlers error hdrain =>
      have hroom := leastSize_drain_le hstart
      rw [hdrain] at hroom
      refine ⟨cursor.position, .of_groups_nil rfl hroom ?_⟩
      rintro stop ⟨⟩
  | case4 count cursor reader hstart handlers after hdrain walk ih =>
      obtain ⟨bytes, hgroup, hpasses⟩ := encodesGroup_of_drain hstart hdrain
      obtain ⟨last, hafter⟩ := ih
      exact ⟨last, hafter.cons hgroup hpasses⟩

theorem firstOffset_le {data : Bytes} {first : Nat} (hfirst : firstOffset data = .ok first) :
    first ≤ data.length := by
  by_cases hdata : data = []
  · subst hdata
    exact (Except.ok.inj hfirst).ge
  · rw [firstOffset] at hfirst
    · cases hread : (Cursor.ofOffset data 0).readUnsigned with
      | error error => simp [hread, Except.map] at hfirst
      | ok result =>
          obtain ⟨count, after⟩ := result
          obtain ⟨bytes, -, hpasses⟩ := Cursor.readUnsigned_eq_ok_iff.mp hread
          have hend := hpasses.position_add_length
          simp only [hread, Except.map, Except.ok.injEq] at hfirst
          simp only [Cursor.ofOffset, List.drop_zero, Nat.zero_add] at hend
          omega
    · exact hdata

theorem walk_eq_ok_iff {data : Bytes} {found : HandlerWalk} :
    walk data = .ok found ↔ ∃ count first, size data = .ok count ∧ firstOffset data = .ok first ∧
      walkFrom count.toNat (.ofOffset data first) = found := by
  simp only [walk, bind_eq_ok_iff, pure, Except.pure, Except.ok.injEq, exists_and_left]

theorem exists_walk_of_extent {data : Bytes} {length : Nat} (hextent : extent data = .ok length) :
    ∃ found, walk data = .ok found ∧ found.ending = .ok length := by
  rw [extent] at hextent
  split at hextent
  · cases hextent
  · exact bind_eq_ok_iff.mp hextent

/-- All that the walk has found fits the data, whether or not it has failed. -/
theorem Backed.handlers_length_le {data : Bytes} {first last : Nat} {found : HandlerWalk}
    (hfirst : first ≤ data.length) (hbacked : Backed (.ofOffset data first) found last) :
    found.handlers.length ≤ data.length := by
  have hgroups := hbacked.backToBack.room
  have hroom := hbacked.room
  have hleast := Handler.length_le_leastSize found.handlers
  rw [HandlerWalk.handlers, Handler.leastSize_append] at hleast
  simp only [Cursor.ofOffset, List.length_drop] at hgroups hroom
  rw [HandlerWalk.handlers]
  omega

/-- The list of `length` bytes at the front of the data has a byte at least for
everything that its counts promise, and the groups that fill it have a handler
each. -/
structure Accepts (data : Bytes) (length : Nat) (count : UInt32) (first : Nat)
    (found : HandlerWalk) : Prop where
  size : size data = .ok count
  firstOffset : firstOffset data = .ok first
  walk : walk data = .ok found
  length_groups : found.groups.length = count.toNat
  backToBack : BackToBack first found.groups length
  partialGroup : found.partialGroup = []
  room : first + count.toNat + 2 * typedCount found.handlers + catchAllCount found.handlers ≤
    length
  inside : length ≤ data.length
  count_le : count.toNat ≤ typedCount found.handlers + catchAllCount found.handlers

theorem exists_accepts_of_extent {data : Bytes} {length : Nat}
    (hextent : extent data = .ok length) :
    ∃ count first found, Accepts data length count first found := by
  obtain ⟨found, hwalk, hending⟩ := exists_walk_of_extent hextent
  obtain ⟨count, first, hcount, hfirst, rfl⟩ := walk_eq_ok_iff.mp hwalk
  obtain ⟨last, hbacked⟩ := backed_walkFrom count.toNat (.ofOffset data first)
  obtain ⟨-, -, -, hlength, hpartial, -⟩ := encodes_of_walkFrom hending
  obtain rfl := hbacked.ending length hending
  have hgroups := hbacked.backToBack
  have hcounts := hgroups.length_le
  have hroom := hgroups.room
  have hinside := hbacked.room
  have hwhole := firstOffset_le hfirst
  generalize walkFrom count.toNat (.ofOffset data first) = found at *
  have hhandlers : found.handlers = found.groups.flatMap HandlerGroupAt.handlers := by
    rw [HandlerWalk.handlers, hpartial, List.append_nil]
  rw [HandlerWalk.handlerGroups, List.length_map] at hlength
  rw [← hhandlers, Handler.leastSize] at hroom
  rw [← hhandlers, ← Handler.typedCount_add_catchAllCount] at hcounts
  simp only [Cursor.ofOffset, List.length_drop] at hgroups hroom hinside
  refine ⟨count, first, found, hcount, hfirst, hwalk, hlength, hgroups, hpartial, ?_, ?_, ?_⟩
  · omega
  · omega
  · rw [← hlength]
    exact hcounts

end HandlerList

namespace CodeItem

/-- The list of a parsed item lies in the data where its table ends. -/
theorem handlers_isPrefix_of_parse {data : Bytes} {offset : Nat} {item : CodeItem}
    (hparse : parse data offset = .ok item) :
    item.handlers <+: data.drop (item.listStart offset) := by
  obtain ⟨bytes, ⟨rest, hrest⟩, hencodes⟩ := encodes_of_parse hparse
  obtain ⟨front, rfl, hfront⟩ := hencodes.exists_front
  rw [listStart, ← hfront, ← List.drop_drop, ← hrest, List.append_assoc, List.drop_left]
  exact List.prefix_append _ _

theorem extent_drop_of_parse {data : Bytes} {offset : Nat} {item : CodeItem}
    (hparse : parse data offset = .ok item) (htries : item.tries ≠ []) :
    HandlerList.extent (data.drop (item.listStart offset)) = .ok item.handlers.length := by
  obtain ⟨groups, hgroups⟩ := (wholeHandlers_of_parse hparse).encodes htries
  exact HandlerList.extent_eq_ok_iff.mpr
    ⟨item.handlers, groups, handlers_isPrefix_of_parse hparse, hgroups, rfl⟩

end CodeItem

namespace HandlerList

/-- A list is accepted only with a byte at least for everything that its counts
promise.  So no walk finds more groups than handlers or more handlers than there are
bytes, whether it comes to the end or fails, and what the parser cuts out of the
data as the handlers of an item lies inside the data. -/
theorem extent_backed (data : Bytes) :
    (∀ length, extent data = .ok length → ∃ count first found,
        Accepts data length count first found) ∧
      (∀ found, walk data = .ok found →
        found.groups.length ≤ found.handlers.length ∧ found.handlers.length ≤ data.length) ∧
      ∀ offset item, CodeItem.parse data offset = .ok item → item.tries ≠ [] →
        extent (data.drop (item.listStart offset)) = .ok item.handlers.length ∧
        item.listStart offset + item.handlers.length ≤ data.length ∧
        item.handlers = (data.drop (item.listStart offset)).take item.handlers.length := by
  refine ⟨fun length => exists_accepts_of_extent, ?_, ?_⟩
  · intro found hwalk
    obtain ⟨count, first, -, hfirst, rfl⟩ := walk_eq_ok_iff.mp hwalk
    obtain ⟨last, hbacked⟩ := backed_walkFrom count.toNat (.ofOffset data first)
    constructor
    · rw [HandlerWalk.handlers, List.length_append]
      exact hbacked.backToBack.length_le.trans (Nat.le_add_right _ _)
    · exact hbacked.handlers_length_le (firstOffset_le hfirst)
  · intro offset item hparse htries
    refine ⟨CodeItem.extent_drop_of_parse hparse htries,
      (CodeItem.extent_of_parse hparse).stop_le, ?_⟩
    exact List.prefix_iff_eq_take.mp (CodeItem.handlers_isPrefix_of_parse hparse)

end HandlerList

end DalvikPrepass
