import Mathlib
import DalvikPrepass.Handler.List
import DalvikPrepass.Proofs.Leb128

/-!
# The grammar of handler lists

What bytes write a handler, a group of handlers and a list of groups.  The
readers are compared with this grammar: where a reader succeeds it has passed
over bytes of the grammar and got what they write, and it succeeds on all such
bytes whatever follows them.
-/

namespace DalvikPrepass

namespace Handler

/-- A typed handler is its type index and then its address, a catch-all just
its address. -/
inductive Encodes : Bytes → Handler → Prop
  | typed {first second : Bytes} {typeIndex address : UInt32}
      (htype : Leb128.EncodesUnsigned first typeIndex)
      (haddress : Leb128.EncodesUnsigned second address) :
      Encodes (first ++ second) ⟨some typeIndex, address⟩
  | catchAll {bytes : Bytes} {address : UInt32}
      (haddress : Leb128.EncodesUnsigned bytes address) : Encodes bytes ⟨none, address⟩

def isTyped (handler : Handler) : Bool :=
  handler.typeIndex.isSome

end Handler

namespace HandlerList

/-- Which handlers of a group with this count are typed: as many as the count
says, whatever its sign, and after them comes a catch-all unless the count is
positive. -/
def groupShape (count : Int32) : List Bool :=
  List.replicate count.toInt.natAbs true ++ if count.toInt ≤ 0 then [false] else []

/-- A group is a signed count and the handlers that the count asks for. -/
inductive EncodesGroup : Bytes → List Handler → Prop
  | intro {front rest : Bytes} {count : Int32} {handlers : List Handler}
      (hcount : Leb128.EncodesSigned front count)
      (hhandlers : Bytes.Sequence Handler.Encodes rest handlers)
      (hshape : handlers.map Handler.isTyped = groupShape count) :
      EncodesGroup (front ++ rest) handlers

/-- A list is an unsigned count and that many groups. -/
inductive Encodes : Bytes → List (List Handler) → Prop
  | intro {front rest : Bytes} {count : UInt32} {groups : List (List Handler)}
      (hcount : Leb128.EncodesUnsigned front count)
      (hgroups : Bytes.Sequence EncodesGroup rest groups)
      (hlength : groups.length = count.toNat) :
      Encodes (front ++ rest) groups

/-- The groups of the list at the front of the data.  An absent list has
none. -/
def Holds (data : Bytes) (groups : List (List Handler)) : Prop :=
  data = [] ∧ groups = [] ∨ ∃ bytes, bytes <+: data ∧ Encodes bytes groups

end HandlerList

/-! ## Reading values -/

namespace Cursor

theorem ofOffset_of_passes {data bytes : Bytes} {offset : Nat} {after : Cursor}
    (hpasses : (ofOffset data offset).Passes bytes after) :
    ofOffset data (offset + bytes.length) = after := by
  rw [hpasses.eq_skip]
  simp only [ofOffset, skip, List.drop_drop]

theorem passes_ofOffset {data bytes rest : Bytes} {offset : Nat}
    (hdata : data.drop offset = bytes ++ rest) :
    (ofOffset data offset).Passes bytes (ofOffset data (offset + bytes.length)) := by
  have hpasses : (ofOffset data offset).Passes bytes _ := passes_skip hdata
  rw [ofOffset_of_passes hpasses]
  exact hpasses

/-- What is read off a cursor as an unsigned value. -/
theorem readUnsigned_eq_ok_iff {cursor after : Cursor} {value : UInt32} :
    cursor.readUnsigned = .ok (value, after) ↔
      ∃ bytes, Leb128.EncodesUnsigned bytes value ∧ cursor.Passes bytes after := by
  rw [readUnsigned]
  constructor
  · intro hread
    split at hread
    · rename_i found size hdecode
      simp only [Except.ok.injEq, Prod.mk.injEq] at hread
      obtain ⟨rfl, rfl⟩ := hread
      obtain ⟨form, rest, hrest, hform, rfl⟩ := Leb128.decodeUnsigned_eq_some_iff.mp hdecode
      exact ⟨form, hform, passes_skip hrest⟩
    · simp at hread
  · intro ⟨bytes, hform, hpasses⟩
    rw [Leb128.decodeUnsigned_eq_some_iff.mpr ⟨bytes, after.rest, hpasses.1, hform, rfl⟩,
      hpasses.eq_skip]

theorem decodeUnsigned_of_readUnsigned {cursor : Cursor} {error : ReadError}
    (hread : cursor.readUnsigned = .error error) :
    Leb128.decodeUnsigned cursor.rest = none ∧ error = .invalidLeb128 cursor.position := by
  rw [readUnsigned] at hread
  split at hread
  · simp at hread
  · rename_i hnone
    exact ⟨hnone, (Except.error.inj hread).symm⟩

/-- What is read off a cursor as a signed value. -/
theorem readSigned_eq_ok_iff {cursor after : Cursor} {value : Int32} :
    cursor.readSigned = .ok (value, after) ↔
      ∃ bytes, Leb128.EncodesSigned bytes value ∧ cursor.Passes bytes after := by
  rw [readSigned]
  constructor
  · intro hread
    split at hread
    · rename_i found size hdecode
      simp only [Except.ok.injEq, Prod.mk.injEq] at hread
      obtain ⟨rfl, rfl⟩ := hread
      obtain ⟨form, rest, hrest, hform, rfl⟩ := Leb128.decodeSigned_eq_some_iff.mp hdecode
      exact ⟨form, hform, passes_skip hrest⟩
    · simp at hread
  · intro ⟨bytes, hform, hpasses⟩
    rw [Leb128.decodeSigned_eq_some_iff.mpr ⟨bytes, after.rest, hpasses.1, hform, rfl⟩,
      hpasses.eq_skip]

end Cursor

/-! ## Reading groups -/

namespace GroupReader

/-- Which of the handlers still to come are typed. -/
def kinds (reader : GroupReader) : List Bool :=
  List.replicate reader.typedLeft true ++ List.replicate reader.catchAllLeft.toNat false

theorem eq_of_kinds_eq {reader other : GroupReader} (hcursor : reader.cursor = other.cursor)
    (hkinds : reader.kinds = other.kinds) : reader = other := by
  have htyped := congrArg (List.count true) hkinds
  have hcatchAll := congrArg (List.count false) hkinds
  obtain ⟨cursor, typed, catchAll⟩ := reader
  obtain ⟨otherCursor, otherTyped, otherCatchAll⟩ := other
  simp [kinds, List.count_replicate] at hcursor htyped hcatchAll
  have hflag : catchAll = otherCatchAll := by
    cases catchAll <;> cases otherCatchAll <;> simp_all
  rw [hcursor, htyped, hflag]

/-- A group starts with its size, which announces the handlers in it. -/
theorem encodes_of_start {cursor : Cursor} {reader : GroupReader}
    (hstart : start cursor = .ok reader) :
    ∃ bytes count, Leb128.EncodesSigned bytes count ∧ cursor.Passes bytes reader.cursor ∧
      reader.kinds = HandlerList.groupShape count := by
  rw [start] at hstart
  cases hread : cursor.readSigned with
  | error error => simp [hread, bind, Except.bind] at hstart
  | ok result =>
      obtain ⟨count, after⟩ := result
      obtain ⟨bytes, hcount, hpasses⟩ := Cursor.readSigned_eq_ok_iff.mp hread
      simp only [hread, bind, Except.bind, pure, Except.pure, Except.ok.injEq] at hstart
      subst hstart
      refine ⟨bytes, count, hcount, hpasses, ?_⟩
      by_cases hsign : count.toInt ≤ 0 <;> simp [kinds, HandlerList.groupShape, hsign]

/-- A group can be started wherever a size is written. -/
theorem start_of_encodes {cursor after : Cursor} {bytes : Bytes} {count : Int32}
    (hcount : Leb128.EncodesSigned bytes count) (hpasses : cursor.Passes bytes after) :
    ∃ reader, start cursor = .ok reader ∧ reader.cursor = after ∧
      reader.kinds = HandlerList.groupShape count := by
  refine ⟨⟨after, count.toInt.natAbs, count.toInt ≤ 0⟩, ?_, rfl, ?_⟩
  · rw [start, Cursor.readSigned_eq_ok_iff.mpr ⟨bytes, hcount, hpasses⟩]
    rfl
  · by_cases hsign : count.toInt ≤ 0 <;> simp [kinds, HandlerList.groupShape, hsign]

theorem next_of_kinds_nil {reader : GroupReader} (hkinds : reader.kinds = []) :
    reader.next = (none, reader) := by
  obtain ⟨cursor, typed, catchAll⟩ := reader
  simp [kinds] at hkinds
  obtain ⟨rfl, rfl⟩ := hkinds
  rfl

/-- What a step can do.  Either no handler was to come, or it finds one of the
kind that was to come next and passes over its bytes, or it stops at bytes that
are no value. -/
inductive Steps (reader : GroupReader) : Option (Except ReadError Handler) × GroupReader → Prop
  | finished (hkinds : reader.kinds = []) : Steps reader (none, reader)
  | found {bytes : Bytes} {handler : Handler} {after : GroupReader}
      (hencodes : handler.Encodes bytes) (hpasses : reader.cursor.Passes bytes after.cursor)
      (hkinds : reader.kinds = handler.isTyped :: after.kinds) :
      Steps reader (some (.ok handler), after)
  | failed {bytes : Bytes} {last : Cursor} (hkinds : reader.kinds ≠ [])
      (hpasses : reader.cursor.Passes bytes last)
      (hnone : Leb128.decodeUnsigned last.rest = none) :
      Steps reader (some (.error (.invalidLeb128 last.position)), abandon last)

/-- One call yields nothing, a handler or an error; no other result is possible. -/
theorem steps_next (reader : GroupReader) : reader.Steps reader.next := by
  obtain ⟨cursor, typed, catchAll⟩ := reader
  cases typed with
  | succ typed =>
      rw [next]
      cases htype : cursor.readUnsigned with
      | error error =>
          obtain ⟨hnone, rfl⟩ := Cursor.decodeUnsigned_of_readUnsigned htype
          exact .failed (List.cons_ne_nil _ _) (.refl cursor) hnone
      | ok result =>
          obtain ⟨typeIndex, middle⟩ := result
          obtain ⟨first, hfirst, hleft⟩ := Cursor.readUnsigned_eq_ok_iff.mp htype
          cases haddress : middle.readUnsigned with
          | error error =>
              obtain ⟨hnone, rfl⟩ := Cursor.decodeUnsigned_of_readUnsigned haddress
              simp only [haddress]
              exact .failed (List.cons_ne_nil _ _) hleft hnone
          | ok result =>
              obtain ⟨address, last⟩ := result
              obtain ⟨second, hsecond, hright⟩ := Cursor.readUnsigned_eq_ok_iff.mp haddress
              simp only [haddress]
              exact .found (.typed hfirst hsecond) (hleft.trans hright) rfl
  | zero =>
      cases catchAll with
      | true =>
          rw [next]
          cases haddress : cursor.readUnsigned with
          | error error =>
              obtain ⟨hnone, rfl⟩ := Cursor.decodeUnsigned_of_readUnsigned haddress
              exact .failed (List.cons_ne_nil _ _) (.refl cursor) hnone
          | ok result =>
              obtain ⟨address, last⟩ := result
              obtain ⟨bytes, hbytes, hpasses⟩ := Cursor.readUnsigned_eq_ok_iff.mp haddress
              exact .found (.catchAll hbytes) hpasses rfl
      | false => exact .finished rfl

theorem kinds_eq_nil_of_next {reader after : GroupReader} (hnext : reader.next = (none, after)) :
    reader.kinds = [] ∧ after = reader := by
  have hsteps := reader.steps_next
  rw [hnext] at hsteps
  cases hsteps with
  | finished hkinds => exact ⟨hkinds, rfl⟩

/-- A step that finds a handler passes over the bytes of just that handler,
which is of the kind that was to come next. -/
theorem encodes_of_next {reader after : GroupReader} {handler : Handler}
    (hnext : reader.next = (some (.ok handler), after)) :
    ∃ bytes, handler.Encodes bytes ∧ reader.cursor.Passes bytes after.cursor ∧
      reader.kinds = handler.isTyped :: after.kinds := by
  have hsteps := reader.steps_next
  rw [hnext] at hsteps
  cases hsteps with
  | found hencodes hpasses hkinds => exact ⟨_, hencodes, hpasses, hkinds⟩

theorem exists_reader_of_kinds_cons {reader : GroupReader} {kind : Bool} {kinds : List Bool}
    (hkinds : reader.kinds = kind :: kinds) (cursor : Cursor) :
    ∃ after : GroupReader, after.cursor = cursor ∧ after.kinds = kinds := by
  obtain ⟨start, typed, catchAll⟩ := reader
  cases typed with
  | succ typed => exact ⟨⟨cursor, typed, catchAll⟩, rfl, (List.cons.inj hkinds).2⟩
  | zero =>
      cases catchAll with
      | true => exact ⟨⟨cursor, 0, false⟩, rfl, (List.cons.inj hkinds).2⟩
      | false => simp [GroupReader.kinds] at hkinds

/-- A handler that is written where it is announced is yielded. -/
theorem next_of_encodes {reader after : GroupReader} {handler : Handler} {bytes : Bytes}
    (hencodes : handler.Encodes bytes) (hpasses : reader.cursor.Passes bytes after.cursor)
    (hkinds : reader.kinds = handler.isTyped :: after.kinds) :
    reader.next = (some (.ok handler), after) := by
  cases hencodes with
  | @typed first second typeIndex address htype haddress =>
      obtain ⟨middle, hleft, hright⟩ := Cursor.passes_append.mp hpasses
      have hreadType := Cursor.readUnsigned_eq_ok_iff.mpr ⟨first, htype, hleft⟩
      have hreadAddress := Cursor.readUnsigned_eq_ok_iff.mpr ⟨second, haddress, hright⟩
      have hreader : reader = ⟨reader.cursor, after.typedLeft + 1, after.catchAllLeft⟩ :=
        eq_of_kinds_eq rfl hkinds
      rw [hreader, next]
      simp only [hreadType, hreadAddress]
  | catchAll haddress =>
      have hread := Cursor.readUnsigned_eq_ok_iff.mpr ⟨bytes, haddress, hpasses⟩
      obtain ⟨cursor, typed, catchAll⟩ := reader
      cases typed with
      | succ typed => simp [kinds, List.replicate_succ, Handler.isTyped] at hkinds
      | zero =>
          cases catchAll with
          | false => simp [kinds] at hkinds
          | true =>
              have hafter : after = ⟨after.cursor, 0, false⟩ :=
                eq_of_kinds_eq rfl (List.cons.inj hkinds).2.symm
              rw [next, hafter]
              simp only [hread]

theorem drain_of_next_none {reader after : GroupReader} (hnext : reader.next = (none, after)) :
    reader.drain = ([], .ok after.cursor) := by
  rw [drain]
  split <;> simp_all

theorem drain_of_next_error {reader after : GroupReader} {error : ReadError}
    (hnext : reader.next = (some (.error error), after)) : reader.drain = ([], .error error) := by
  rw [drain]
  split <;> simp_all

theorem drain_of_next_ok {reader after : GroupReader} {handler : Handler}
    (hnext : reader.next = (some (.ok handler), after)) :
    reader.drain = (handler :: after.drain.1, after.drain.2) := by
  rw [drain]
  split <;> simp_all

/-- Draining succeeds just on the handlers that the reader is waiting for, and
passes over them. -/
theorem drain_eq_ok_iff {reader : GroupReader} {handlers : List Handler} {after : Cursor} :
    reader.drain = (handlers, .ok after) ↔
      ∃ bytes, Bytes.Sequence Handler.Encodes bytes handlers ∧
        handlers.map Handler.isTyped = reader.kinds ∧ reader.cursor.Passes bytes after := by
  constructor
  · intro hdrain
    induction reader using drain.induct generalizing handlers with
    | case1 reader last hnext =>
        rw [drain_of_next_none hnext] at hdrain
        simp only [Prod.mk.injEq, Except.ok.injEq] at hdrain
        obtain ⟨rfl, rfl⟩ := hdrain
        obtain ⟨hkinds, rfl⟩ := kinds_eq_nil_of_next hnext
        exact ⟨[], .nil, hkinds.symm, .refl _⟩
    | case2 reader error last hnext =>
        rw [drain_of_next_error hnext] at hdrain
        simp at hdrain
    | case3 reader handler last hnext _ _ _ _ ih =>
        rw [drain_of_next_ok hnext] at hdrain
        simp only [Prod.mk.injEq] at hdrain
        obtain ⟨rfl, hending⟩ := hdrain
        obtain ⟨rest, hrest, hshape, hright⟩ := ih (Prod.ext rfl hending)
        obtain ⟨first, hfirst, hleft, hkinds⟩ := encodes_of_next hnext
        refine ⟨first ++ rest, .cons hfirst hrest, ?_, hleft.trans hright⟩
        rw [hkinds, List.map_cons, hshape]
  · intro ⟨bytes, hsequence, hshape, hpasses⟩
    induction hsequence generalizing reader with
    | nil =>
        rw [drain_of_next_none (next_of_kinds_nil hshape.symm), hpasses.eq_skip]
        rfl
    | @cons first rest handler handlers hfirst hrest ih =>
        obtain ⟨middle, hleft, hright⟩ := Cursor.passes_append.mp hpasses
        obtain ⟨last, hcursor, hkinds⟩ := exists_reader_of_kinds_cons hshape.symm middle
        subst hcursor
        have hnext := next_of_encodes hfirst hleft (hshape.symm.trans (by rw [hkinds]; rfl))
        rw [drain_of_next_ok hnext, ih hkinds.symm hright]

end GroupReader

/-! ## Reading lists -/

namespace HandlerWalk

/-- The handlers of each group that was read in full. -/
def handlerGroups (walk : HandlerWalk) : List (List Handler) :=
  walk.groups.map HandlerGroupAt.handlers

end HandlerWalk

namespace HandlerList

/-- What is drained without an error is written as a group. -/
theorem encodesGroup_of_drain {cursor after : Cursor} {reader : GroupReader}
    {handlers : List Handler} (hstart : GroupReader.start cursor = .ok reader)
    (hdrain : reader.drain = (handlers, .ok after)) :
    ∃ bytes, EncodesGroup bytes handlers ∧ cursor.Passes bytes after := by
  obtain ⟨front, count, hcount, hleft, hkinds⟩ := GroupReader.encodes_of_start hstart
  obtain ⟨rest, hhandlers, hshape, hright⟩ := GroupReader.drain_eq_ok_iff.mp hdrain
  exact ⟨front ++ rest, .intro hcount hhandlers (hshape.trans hkinds), hleft.trans hright⟩

/-- A written group is drained without an error. -/
theorem drain_of_encodesGroup {cursor after : Cursor} {bytes : Bytes} {handlers : List Handler}
    (hgroup : EncodesGroup bytes handlers) (hpasses : cursor.Passes bytes after) :
    ∃ reader, GroupReader.start cursor = .ok reader ∧ reader.drain = (handlers, .ok after) := by
  obtain ⟨hcount, hhandlers, hshape⟩ := hgroup
  obtain ⟨middle, hleft, hright⟩ := Cursor.passes_append.mp hpasses
  obtain ⟨reader, hstart, rfl, hkinds⟩ := GroupReader.start_of_encodes hcount hleft
  have hdrain := GroupReader.drain_eq_ok_iff.mpr
    ⟨_, hhandlers, hshape.trans hkinds.symm, hright⟩
  exact ⟨reader, hstart, hdrain⟩

/-- A walk that comes to its end has passed over the groups it found. -/
theorem encodes_of_walkFrom {count stop : Nat} {cursor : Cursor}
    (hending : (walkFrom count cursor).ending = .ok stop) :
    ∃ bytes after,
      Bytes.Sequence EncodesGroup bytes (walkFrom count cursor).handlerGroups ∧
      (walkFrom count cursor).handlerGroups.length = count ∧
      (walkFrom count cursor).partialGroup = [] ∧
      cursor.Passes bytes after ∧ after.position = stop := by
  induction count generalizing cursor with
  | zero =>
      simp only [walkFrom, Except.ok.injEq] at hending
      exact ⟨[], cursor, .nil, rfl, rfl, .refl cursor, hending⟩
  | succ count ih =>
      cases hstart : GroupReader.start cursor with
      | error error => simp [walkFrom, hstart] at hending
      | ok reader =>
          cases hdrain : reader.drain with
          | mk handlers outcome =>
              cases outcome with
              | error error => simp [walkFrom, hstart, hdrain] at hending
              | ok middle =>
                  simp only [walkFrom, hstart, hdrain] at hending ⊢
                  obtain ⟨rest, after, hgroups, hlength, hpartial, hright, hstop⟩ := ih hending
                  obtain ⟨first, hgroup, hleft⟩ := encodesGroup_of_drain hstart hdrain
                  refine ⟨first ++ rest, after, .cons hgroup hgroups, ?_, hpartial,
                    hleft.trans hright, hstop⟩
                  exact congrArg Nat.succ hlength

/-- Written groups are walked over one by one. -/
theorem walkFrom_of_encodes {cursor after : Cursor} {bytes : Bytes}
    {groups : List (List Handler)} (hgroups : Bytes.Sequence EncodesGroup bytes groups)
    (hpasses : cursor.Passes bytes after) :
    (walkFrom groups.length cursor).ending = .ok after.position ∧
      (walkFrom groups.length cursor).handlerGroups = groups := by
  induction hgroups generalizing cursor with
  | nil =>
      rw [hpasses.eq_skip]
      exact ⟨rfl, rfl⟩
  | @cons first rest handlers groups hgroup hgroups ih =>
      obtain ⟨middle, hleft, hright⟩ := Cursor.passes_append.mp hpasses
      obtain ⟨reader, hstart, hdrain⟩ := drain_of_encodesGroup hgroup hleft
      obtain ⟨hending, hfound⟩ := ih hright
      simp only [List.length_cons, walkFrom, hstart, hdrain]
      exact ⟨hending, congrArg (handlers :: ·) hfound⟩

/-- The count is read once for its value and once for its length; both together
start the walk just after it. -/
theorem walk_eq_of_ne_nil {data : Bytes} (hdata : data ≠ []) :
    walk data = (Cursor.ofOffset data 0).readUnsigned.map fun (count, cursor) =>
      walkFrom count.toNat cursor := by
  rw [walk, size, firstOffset]
  · cases hread : (Cursor.ofOffset data 0).readUnsigned with
    | error error => rfl
    | ok result =>
        obtain ⟨count, cursor⟩ := result
        obtain ⟨front, _, hpasses⟩ := Cursor.readUnsigned_eq_ok_iff.mp hread
        have hcursor := Cursor.ofOffset_of_passes hpasses
        have hposition : cursor.position = 0 + front.length := hpasses.2
        rw [← hposition] at hcursor
        simp only [bind, Except.bind, Except.map, pure, Except.pure, hcursor]
  · exact hdata
  · exact hdata

/-- A walk that comes to its end has passed over a list of the grammar. -/
theorem encodes_of_walk {data : Bytes} {found : HandlerWalk} {stop : Nat} (hdata : data ≠ [])
    (hwalk : walk data = .ok found) (hending : found.ending = .ok stop) :
    ∃ bytes, bytes <+: data ∧ Encodes bytes found.handlerGroups ∧ bytes.length = stop ∧
      found.partialGroup = [] := by
  rw [walk_eq_of_ne_nil hdata] at hwalk
  cases hread : (Cursor.ofOffset data 0).readUnsigned with
  | error error => simp [hread, Except.map] at hwalk
  | ok result =>
      obtain ⟨count, cursor⟩ := result
      simp only [hread, Except.map, Except.ok.injEq] at hwalk
      subst hwalk
      obtain ⟨front, hcount, hleft⟩ := Cursor.readUnsigned_eq_ok_iff.mp hread
      obtain ⟨rest, after, hgroups, hlength, hpartial, hright, rfl⟩ :=
        encodes_of_walkFrom hending
      have hpasses := hleft.trans hright
      refine ⟨front ++ rest, ⟨after.rest, hpasses.1.symm⟩, .intro hcount hgroups hlength, ?_,
        hpartial⟩
      rw [hpasses.2]
      exact (Nat.zero_add _).symm

/-- The walk over data that begins with a list finds the groups of that list
and comes to its end just after it. -/
theorem walk_of_encodes {data bytes : Bytes} {groups : List (List Handler)}
    (hencodes : Encodes bytes groups) (hbegins : bytes <+: data) :
    ∃ found, walk data = .ok found ∧ found.ending = .ok bytes.length ∧
      found.handlerGroups = groups := by
  obtain ⟨rest, rfl⟩ := hbegins
  obtain ⟨hcount, hgroups, hlength⟩ := hencodes
  rename_i front tail count
  have hdata : front ++ tail ++ rest ≠ [] := by simp [hcount.1.ne_nil]
  have hpasses : (Cursor.ofOffset (front ++ tail ++ rest) 0).Passes (front ++ tail) _ :=
    Cursor.passes_skip rfl
  obtain ⟨middle, hleft, hright⟩ := Cursor.passes_append.mp hpasses
  have hread := Cursor.readUnsigned_eq_ok_iff.mpr ⟨front, hcount, hleft⟩
  obtain ⟨hending, hfound⟩ := walkFrom_of_encodes hgroups hright
  rw [walk_eq_of_ne_nil hdata, hread]
  refine ⟨walkFrom count.toNat middle, rfl, ?_, ?_⟩
  · rw [← hlength, hending, hpasses.2]
    exact congrArg Except.ok (Nat.zero_add _)
  · rw [← hlength, hfound]

/-- The count of a list that fills the data is the number of its groups, which a
walk from the first one meets in their order. -/
theorem walkFrom_of_size {handlers : Bytes} {groups : List (List Handler)}
    (hencodes : Encodes handlers groups) :
    ∃ count first, size handlers = .ok count ∧ count.toNat = groups.length ∧
      firstOffset handlers = .ok first ∧
      (walkFrom count.toNat (.ofOffset handlers first)).handlerGroups = groups ∧
      (walkFrom count.toNat (.ofOffset handlers first)).ending = .ok handlers.length := by
  obtain ⟨found, hwalk, hending, hfound⟩ := walk_of_encodes hencodes (List.prefix_refl handlers)
  simp only [walk, bind_eq_ok_iff] at hwalk
  obtain ⟨count, hcount, first, hfirst, hwalk⟩ := hwalk
  obtain rfl := Except.ok.inj hwalk
  obtain ⟨-, -, -, hlength, -⟩ := encodes_of_walkFrom hending
  rw [hfound] at hlength
  exact ⟨count, first, hcount, hlength.symm, hfirst, hfound, hending⟩

theorem Encodes.ne_nil {bytes : Bytes} {groups : List (List Handler)}
    (hencodes : Encodes bytes groups) : bytes ≠ [] := by
  obtain ⟨hcount, -, -⟩ := hencodes
  simp [hcount.1.ne_nil]

/-- The extent of a list is its length in the grammar. -/
theorem extent_eq_ok_iff {data : Bytes} {length : Nat} :
    extent data = .ok length ↔
      ∃ bytes groups, bytes <+: data ∧ Encodes bytes groups ∧ bytes.length = length := by
  constructor
  · intro hextent
    rw [extent] at hextent
    split at hextent
    · simp at hextent
    · rename_i hempty
      cases hwalk : walk data with
      | error error => simp [hwalk, bind, Except.bind] at hextent
      | ok found =>
          simp only [hwalk, bind, Except.bind] at hextent
          obtain ⟨bytes, hbegins, hencodes, hlength, -⟩ :=
            encodes_of_walk (by simpa using hempty) hwalk hextent
          exact ⟨bytes, _, hbegins, hencodes, hlength⟩
  · rintro ⟨bytes, groups, hbegins, hencodes, rfl⟩
    obtain ⟨found, hwalk, hending, -⟩ := walk_of_encodes hencodes hbegins
    have hempty : ¬data.isEmpty := by
      obtain ⟨rest, rfl⟩ := hbegins
      simp [hencodes.ne_nil]
    rw [extent, if_neg hempty, hwalk]
    exact hending

/-! ## Lists that may be absent -/

theorem holds_of_walk {data : Bytes} {found : HandlerWalk} {stop : Nat}
    (hwalk : walk data = .ok found) (hending : found.ending = .ok stop) :
    Holds data found.handlerGroups ∧ found.partialGroup = [] := by
  by_cases hdata : data = []
  · subst hdata
    obtain rfl : found = walkFrom 0 (.ofOffset [] 0) := (Except.ok.inj hwalk).symm
    exact ⟨.inl ⟨rfl, rfl⟩, rfl⟩
  · obtain ⟨bytes, hbegins, hencodes, -, hpartial⟩ := encodes_of_walk hdata hwalk hending
    exact ⟨.inr ⟨bytes, hbegins, hencodes⟩, hpartial⟩

/-- A list that is absent or holds groups is walked to its end. -/
theorem walk_of_holds {data : Bytes} {groups : List (List Handler)} (hholds : Holds data groups) :
    ∃ found stop, walk data = .ok found ∧ found.ending = .ok stop ∧
      found.handlerGroups = groups := by
  rcases hholds with ⟨rfl, rfl⟩ | ⟨bytes, hbegins, hencodes⟩
  · exact ⟨walkFrom 0 (.ofOffset [] 0), 0, rfl, rfl, rfl⟩
  · obtain ⟨found, hwalk, hending, hfound⟩ := walk_of_encodes hencodes hbegins
    exact ⟨found, bytes.length, hwalk, hending, hfound⟩

/-- Bytes hold at most one list. -/
theorem Holds.unique {data : Bytes} {groups others : List (List Handler)}
    (hgroups : Holds data groups) (hothers : Holds data others) : groups = others := by
  obtain ⟨found, -, hwalk, -, hfound⟩ := walk_of_holds hgroups
  obtain ⟨other, -, hwalkOther, -, hother⟩ := walk_of_holds hothers
  obtain rfl : found = other := Except.ok.inj (hwalk.symm.trans hwalkOther)
  exact hfound.symm.trans hother

end HandlerList

end DalvikPrepass
