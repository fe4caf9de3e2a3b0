import Mathlib
import DalvikPrepass.Proofs.HandlerStream

/-!
# The life of a group reader

A reader may be asked for the next handler as often as one likes.  Its answers
are the handlers that the count of the group asks for, or fewer of them and then
one error, and after that there are none.  On its way the cursor only moves
forward and never leaves the data.
-/

namespace DalvikPrepass

namespace GroupReader

/-- The reader after so many steps. -/
def advance (reader : GroupReader) (steps : Nat) : GroupReader :=
  (fun reader => reader.next.2)^[steps] reader

/-- What a step gives after `steps` others. -/
def item (reader : GroupReader) (steps : Nat) : Option (Except ReadError Handler) :=
  (reader.advance steps).next.1

/-- The steps give these items, one each, and nothing ever after.  Behind the last
item the reader stays at `stop`. -/
structure Runs (reader : GroupReader) (items : List (Except ReadError Handler)) (stop : Nat) :
    Prop where
  item : ∀ steps, reader.item steps = items[steps]?
  position : ∀ steps, items.length ≤ steps → (reader.advance steps).position = stop

/-- What becomes of a reader.  Either it finds all the handlers it waits for, of
the right kinds and back to back, or it finds the first of them and fails at the
place of the next value, perhaps behind the type of a handler. -/
inductive LifeCycle (reader : GroupReader) : Prop
  | finished {bytes : Bytes} {handlers : List Handler} {last : Cursor}
      (hhandlers : Bytes.Sequence Handler.Encodes bytes handlers)
      (hpasses : reader.cursor.Passes bytes last)
      (hkinds : handlers.map Handler.isTyped = reader.kinds)
      (hruns : reader.Runs (handlers.map .ok) last.position) : LifeCycle reader
  | broken {bytes skipped : Bytes} {handlers : List Handler} {last stop : Cursor}
      (hhandlers : Bytes.Sequence Handler.Encodes bytes handlers)
      (hpasses : reader.cursor.Passes bytes last) (hskips : last.Passes skipped stop)
      (hkinds : handlers.map Handler.isTyped <+: reader.kinds)
      (hfewer : handlers.length < reader.kinds.length)
      (hnone : Leb128.NoValue stop.rest)
      (hruns : reader.Runs (handlers.map .ok ++ [.error (.invalidLeb128 stop.position)])
        stop.position) : LifeCycle reader

/-! ## Steps -/

theorem advance_zero (reader : GroupReader) : reader.advance 0 = reader := rfl

theorem advance_succ (reader : GroupReader) (steps : Nat) :
    reader.advance (steps + 1) = reader.next.2.advance steps :=
  Function.iterate_succ_apply _ steps reader

theorem advance_succ' (reader : GroupReader) (steps : Nat) :
    reader.advance (steps + 1) = (reader.advance steps).next.2 :=
  Function.iterate_succ_apply' _ steps reader

theorem advance_of_kinds_nil {reader : GroupReader} (hkinds : reader.kinds = []) (steps : Nat) :
    reader.advance steps = reader :=
  Function.iterate_fixed (congrArg Prod.snd (next_of_kinds_nil hkinds)) steps

theorem Runs.ended {reader : GroupReader} (hkinds : reader.kinds = []) :
    reader.Runs [] reader.position where
  item steps := by
    rw [GroupReader.item, advance_of_kinds_nil hkinds, next_of_kinds_nil hkinds]
    rfl
  position steps _ := by rw [advance_of_kinds_nil hkinds]

/-- A call that yields an item is followed by the rest of the run. -/
theorem Runs.cons {reader after : GroupReader} {first : Except ReadError Handler}
    {items : List (Except ReadError Handler)} {stop : Nat}
    (hnext : reader.next = (some first, after)) (hafter : after.Runs items stop) :
    reader.Runs (first :: items) stop where
  item steps := by
    cases steps with
    | zero => rw [GroupReader.item, advance_zero, hnext, List.getElem?_cons_zero]
    | succ steps =>
        rw [GroupReader.item, advance_succ, hnext, List.getElem?_cons_succ]
        exact hafter.item steps
  position steps hsteps := by
    cases steps with
    | zero => simp at hsteps
    | succ steps =>
        rw [advance_succ, hnext]
        exact hafter.position steps (Nat.le_of_succ_le_succ hsteps)

/-! ## Whole lives -/

namespace LifeCycle

variable {reader after : GroupReader}

theorem of_kinds_nil (hkinds : reader.kinds = []) : reader.LifeCycle :=
  .finished .nil (.refl reader.cursor) hkinds.symm (.ended hkinds)

theorem of_error {bytes : Bytes} {stop : Cursor} (hkinds : reader.kinds ≠ [])
    (hpasses : reader.cursor.Passes bytes stop) (hnone : Leb128.NoValue stop.rest)
    (hnext : reader.next = (some (.error (.invalidLeb128 stop.position)), abandon stop)) :
    reader.LifeCycle := by
  have hended : (abandon stop).Runs [] stop.position := .ended rfl
  have hruns : reader.Runs [.error (.invalidLeb128 stop.position)] stop.position :=
    .cons hnext hended
  exact .broken .nil (.refl reader.cursor) hpasses List.nil_prefix (List.length_pos_iff.mpr hkinds)
    hnone hruns

/-- A handler that has been found comes in front of what the reader finds after
it. -/
theorem cons {handler : Handler} {bytes : Bytes} (hencodes : handler.Encodes bytes)
    (hpasses : reader.cursor.Passes bytes after.cursor)
    (hkinds : reader.kinds = handler.isTyped :: after.kinds)
    (hnext : reader.next = (some (.ok handler), after)) (hafter : after.LifeCycle) :
    reader.LifeCycle := by
  cases hafter with
  | finished hhandlers hrest hshape hruns =>
      refine .finished (.cons hencodes hhandlers) (hpasses.trans hrest) ?_ (.cons hnext hruns)
      rw [hkinds, List.map_cons, hshape]
  | broken hhandlers hrest hskips hshape hfewer hnone hruns =>
      refine .broken (.cons hencodes hhandlers) (hpasses.trans hrest) hskips ?_ ?_ hnone
        (.cons hnext hruns)
      · rw [hkinds, List.map_cons]
        exact (List.cons_prefix_cons).mpr ⟨rfl, hshape⟩
      · rw [hkinds, List.length_cons, List.length_cons]
        exact Nat.succ_lt_succ hfewer

end LifeCycle

/-- Every reader runs to its end or to a value that cannot be read. -/
theorem lifeCycle (reader : GroupReader) : reader.LifeCycle := by
  -- With each handler that is found there is one less to come.
  induction hremaining : reader.kinds.length generalizing reader with
  | zero => exact .of_kinds_nil (List.length_eq_zero_iff.mp hremaining)
  | succ remaining ih =>
      have hsteps := reader.steps_next
      generalize hnext : reader.next = result at hsteps
      cases hsteps with
      | finished hkinds => exact .of_kinds_nil hkinds
      | found hencodes hpasses hkinds =>
          refine .cons hencodes hpasses hkinds hnext (ih _ ?_)
          rw [hkinds, List.length_cons] at hremaining
          exact Nat.succ.inj hremaining
      | failed hkinds hpasses hnone =>
          exact .of_error hkinds hpasses ((Leb128.decodeWith_eq_none_iff _).mp hnone) hnext

/-! ## Where the cursor goes -/

/-- A call moves the cursor forward over bytes of the list or leaves it. -/
theorem exists_passes_next (reader : GroupReader) :
    ∃ bytes, reader.cursor.Passes bytes reader.next.2.cursor := by
  have hsteps := reader.steps_next
  generalize reader.next = result at hsteps
  cases hsteps with
  | finished => exact ⟨[], .refl reader.cursor⟩
  | found _ hpasses _ => exact ⟨_, hpasses⟩
  | failed _ hpasses _ => exact ⟨_, hpasses⟩

theorem exists_passes_advance (reader : GroupReader) (steps : Nat) :
    ∃ bytes, reader.cursor.Passes bytes (reader.advance steps).cursor := by
  induction steps with
  | zero => exact ⟨[], .refl reader.cursor⟩
  | succ steps ih =>
      obtain ⟨bytes, hbefore⟩ := ih
      obtain ⟨more, hnext⟩ := (reader.advance steps).exists_passes_next
      rw [← advance_succ'] at hnext
      exact ⟨bytes ++ more, hbefore.trans hnext⟩

theorem monotone_position (reader : GroupReader) :
    Monotone fun steps => (reader.advance steps).position := by
  apply monotone_nat_of_le_succ
  intro steps
  obtain ⟨bytes, hpasses⟩ := (reader.advance steps).exists_passes_next
  rw [← advance_succ'] at hpasses
  exact (Nat.le_add_right _ _).trans_eq hpasses.2.symm

end GroupReader

/-- Moving on changes neither the data nor where they end. -/
theorem Cursor.Passes.position_add_length {cursor after : Cursor} {bytes : Bytes}
    (hpasses : cursor.Passes bytes after) :
    after.position + after.rest.length = cursor.position + cursor.rest.length := by
  rw [hpasses.1, hpasses.2, List.length_append, Nat.add_assoc]

namespace HandlerList

open Leb128 (NoValue EncodesSigned)

/-- A reader whose group starts at `offset`, and all that becomes of it. -/
structure GroupLife (data : Bytes) (offset : Nat) (reader : GroupReader) : Prop where
  count : ∃ front count, front <+: data.drop offset ∧ EncodesSigned front count ∧
    reader.cursor = .ofOffset data (offset + front.length) ∧ reader.kinds = groupShape count
  lifeCycle : reader.LifeCycle
  monotone : Monotone fun steps => (reader.advance steps).position
  inside : ∀ steps, (reader.advance steps).position ≤ data.length

/-- The life of a group that has been found, from its first call on. -/
theorem groupLife_of_groupAt {data : Bytes} {offset : Nat} {reader : GroupReader}
    (hstart : groupAt data offset = .ok reader) : GroupLife data offset reader := by
  obtain ⟨front, count, hcount, hpasses, hkinds⟩ := GroupReader.encodes_of_start hstart
  constructor
  · refine ⟨front, count, ⟨_, hpasses.1.symm⟩, hcount, ?_, hkinds⟩
    exact (Cursor.ofOffset_of_passes hpasses).symm
  · exact reader.lifeCycle
  · exact reader.monotone_position
  · intro steps
    obtain ⟨bytes, hrest⟩ := reader.exists_passes_advance steps
    have hend := (hpasses.trans hrest).position_add_length
    -- The count has a byte, so the offset is inside the data.
    have hfront := List.length_pos_iff.mpr hcount.1.ne_nil
    have hlength := congrArg List.length hpasses.1
    simp only [Cursor.ofOffset, List.length_drop, List.length_append] at hend hlength
    rw [GroupReader.position]
    omega

/-- A group cannot be started just where there is no count, and every group that
is started has its whole life described, however often its reader is asked. -/
theorem groupAt_lifeCycle (data : Bytes) (offset : Nat) :
    (groupAt data offset = .error (.invalidLeb128 offset) ↔ NoValue (data.drop offset)) ∧
      (NoValue (data.drop offset) ∨
        ∃ reader, groupAt data offset = .ok reader ∧ GroupLife data offset reader) := by
  rcases Leb128.noValue_or_signed (data.drop offset) with
    hnone | ⟨front, rest, count, hdata, hcount⟩
  · refine ⟨iff_of_true ?_ hnone, .inl hnone⟩
    have hmissing : NoValue (Cursor.ofOffset data offset).rest := hnone
    rw [groupAt, GroupReader.start, Cursor.readSigned_of_noValue hmissing]
    rfl
  · obtain ⟨reader, hstart, -⟩ :=
      GroupReader.start_of_encodes hcount (Cursor.passes_ofOffset hdata)
    refine ⟨iff_of_false ?_ ?_, .inr ⟨reader, hstart, groupLife_of_groupAt hstart⟩⟩
    · intro hfailed
      cases hstart.symm.trans hfailed
    · intro hnone
      exact hnone front ⟨rest, hdata.symm⟩ hcount.1

/-- Of two handlers only one is there. -/
example :
    (groupAt [1, 2, 1, 2] 1).toOption.map (fun reader => (List.range 4).map reader.item) =
      some [some (.ok ⟨some 1, 2⟩), some (.error (.invalidLeb128 4)), none, none] := by
  decide

end HandlerList

end DalvikPrepass
