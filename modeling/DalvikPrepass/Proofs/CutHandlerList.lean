import Mathlib
import DalvikPrepass.Proofs.HandlerGrammar

/-!
# Handler lists cut short

A handler list is nothing but variable-length integers back to back, so where it
is cut one of them is left without its end.  A reader that comes to that value
stops there, and it cannot come to a regular end before, because no handler list
begins with another one.
-/

namespace DalvikPrepass

/-! ## Values -/

namespace Leb128

/-- The bytes in runs that end with a byte whose top bit is not set. -/
def values : Bytes → List Bytes
  | [] => []
  | byte :: bytes =>
      if byte < 0x80 then
        [byte] :: values bytes
      else
        match values bytes with
        | [] => [[byte]]
        | first :: others => (byte :: first) :: others

theorem flatten_values (bytes : Bytes) : (values bytes).flatten = bytes := by
  induction bytes with
  | nil => rfl
  | cons byte bytes ih =>
      rw [values]
      split
      · rw [List.flatten_cons, ih]
        rfl
      · split
        · rename_i hnone
          rw [← ih, hnone]
          rfl
        · rename_i first others hfirst
          rw [← ih, hfirst]
          rfl

theorem values_append {budget : Nat} {form : Bytes} (hform : IsForm budget form) (rest : Bytes) :
    values (form ++ rest) = form :: values rest := by
  induction hform with
  | last hlast => rw [List.singleton_append, values, if_pos hlast]
  | more hmore _ ih => rw [List.cons_append, values, if_neg (UInt8.not_lt.mpr hmore), ih]

/-- Every run is a form, so the bytes are values back to back. -/
def AreValues (bytes : Bytes) : Prop :=
  ∀ value ∈ values bytes, IsForm 5 value

theorem AreValues.nil : AreValues [] := by
  simp [AreValues, values]

theorem AreValues.cons {form rest : Bytes} (hform : IsForm 5 form) (hrest : AreValues rest) :
    AreValues (form ++ rest) := by
  rw [AreValues, values_append hform, List.forall_mem_cons]
  exact ⟨hform, hrest⟩

theorem AreValues.of_form {form : Bytes} (hform : IsForm 5 form) : AreValues form := by
  rw [← List.append_nil form]
  exact .cons hform .nil

/-- In front of other values, bytes that are values leave values. -/
theorem AreValues.append {left right : Bytes} (hleft : AreValues left)
    (hright : AreValues right) : AreValues (left ++ right) := by
  rw [← flatten_values left]
  rw [AreValues] at hleft
  generalize values left = forms at hleft
  induction forms with
  | nil => exact hright
  | cons form forms ih =>
      obtain ⟨hform, hforms⟩ := List.forall_mem_cons.mp hleft
      rw [List.flatten_cons, List.append_assoc]
      exact .cons hform (ih hforms)

theorem AreValues.of_sequence {α : Type} {Encodes : Bytes → α → Prop} {bytes : Bytes}
    {items : List α} (hitem : ∀ {first item}, Encodes first item → AreValues first)
    (hsequence : Bytes.Sequence Encodes bytes items) : AreValues bytes := by
  induction hsequence with
  | nil => exact .nil
  | cons hfirst _ ih => exact (hitem hfirst).append ih

/-- Where the first of the runs starts that is not complete in front of `size`.
The runs lie back to back from `start` on. -/
def firstCut (size : Nat) : (start : Nat) → List Bytes → Option Nat
  | _, [] => none
  | start, run :: runs =>
      if start + run.length ≤ size then firstCut size (start + run.length) runs else some start

/-- No value is cut just where all of them are there. -/
theorem firstCut_eq_none_iff {size start : Nat} {runs : List Bytes} (hstart : start ≤ size) :
    firstCut size start runs = none ↔ start + runs.flatten.length ≤ size := by
  induction runs generalizing start with
  | nil => simpa [firstCut] using hstart
  | cons run runs ih =>
      rw [firstCut, List.flatten_cons, List.length_append, ← Nat.add_assoc]
      by_cases hrun : start + run.length ≤ size
      · rw [if_pos hrun, ih hrun]
      · rw [if_neg hrun]
        simp
        omega

/-- All bytes of a form but its last one have their top bit set. -/
theorem IsForm.le_of_mem_take {budget count : Nat} {form : Bytes} (hform : IsForm budget form)
    (hcount : count < form.length) : ∀ byte ∈ form.take count, 0x80 ≤ byte := by
  induction hform generalizing count with
  | last _ =>
      obtain rfl : count = 0 := by simpa using hcount
      simp
  | more hmore _ ih =>
      cases count with
      | zero => simp
      | succ count =>
          rw [List.take_succ_cons, List.forall_mem_cons]
          exact ⟨hmore, ih (Nat.lt_of_succ_lt_succ hcount)⟩

theorem decodeWith_of_le {last : UInt8 → UInt32} {budget : Nat} {bytes : Bytes}
    (hbytes : ∀ byte ∈ bytes, 0x80 ≤ byte) : decodeWith last budget bytes = none := by
  induction bytes generalizing budget with
  | nil => cases budget <;> rfl
  | cons byte bytes ih =>
      obtain ⟨hbyte, hrest⟩ := List.forall_mem_cons.mp hbytes
      cases budget with
      | zero => rfl
      | succ budget => rw [decodeWith, if_neg (UInt8.not_lt.mpr hbyte), ih hrest, Option.map_none]

end Leb128

theorem Handler.areValues_of_encodes {bytes : Bytes} {handler : Handler}
    (hencodes : handler.Encodes bytes) : Leb128.AreValues bytes := by
  cases hencodes with
  | typed htype haddress => exact .cons htype.1 (.of_form haddress.1)
  | catchAll haddress => exact .of_form haddress.1

theorem HandlerList.areValues_of_encodesGroup {bytes : Bytes} {handlers : List Handler}
    (hgroup : EncodesGroup bytes handlers) : Leb128.AreValues bytes := by
  obtain ⟨hcount, hhandlers, -⟩ := hgroup
  exact .cons hcount.1 (.of_sequence Handler.areValues_of_encodes hhandlers)

/-- A handler list is made of nothing but values. -/
theorem HandlerList.areValues_of_encodes {bytes : Bytes} {groups : List (List Handler)}
    (hencodes : Encodes bytes groups) : Leb128.AreValues bytes := by
  obtain ⟨hcount, hgroups, -⟩ := hencodes
  exact .cons hcount.1 (.of_sequence areValues_of_encodesGroup hgroups)

/-! ## Readers that come to a cut value -/

/-- From the cursor on the data are values back to back, and behind them is the
front of one more value, which starts at `place` and has no end. -/
inductive Cursor.BreaksAt : Cursor → (place : Nat) → Prop
  | here {cursor : Cursor} (hrest : ∀ byte ∈ cursor.rest, 0x80 ≤ byte) :
      BreaksAt cursor cursor.position
  | behind {cursor after : Cursor} {form : Bytes} {place : Nat} (hform : Leb128.IsForm 5 form)
      (hpasses : cursor.Passes form after) (hafter : BreaksAt after place) : BreaksAt cursor place

namespace Cursor.BreaksAt

variable {cursor : Cursor} {place : Nat}

/-- Whatever its last byte is worth, the next value is the cut one or lies in
front of it. -/
theorem decodeWith (hbreaks : cursor.BreaksAt place) (last : UInt8 → UInt32) :
    Leb128.decodeWith last Leb128.maxBytes cursor.rest = none ∧ cursor.position = place ∨
      ∃ value size, Leb128.decodeWith last Leb128.maxBytes cursor.rest = some (value, size) ∧
        (cursor.skip size).BreaksAt place := by
  cases hbreaks with
  | here hrest => exact .inl ⟨Leb128.decodeWith_of_le hrest, rfl⟩
  | behind hform hpasses hafter =>
      rw [hpasses.eq_skip] at hafter
      rw [hpasses.1]
      exact .inr ⟨_, _, Leb128.decodeWith_append last _ hform, hafter⟩

/-- A reader comes to the cut value or passes over a whole one. -/
theorem readUnsigned (hbreaks : cursor.BreaksAt place) :
    cursor.readUnsigned = .error (.invalidLeb128 place) ∨
      ∃ value after, cursor.readUnsigned = .ok (value, after) ∧ after.BreaksAt place := by
  rw [Cursor.readUnsigned, Leb128.decodeUnsigned]
  rcases hbreaks.decodeWith Leb128.digit with ⟨hnone, rfl⟩ | ⟨value, size, hsome, hafter⟩
  · rw [hnone]
    exact .inl rfl
  · rw [hsome]
    exact .inr ⟨_, _, rfl, hafter⟩

theorem readSigned (hbreaks : cursor.BreaksAt place) :
    cursor.readSigned = .error (.invalidLeb128 place) ∨
      ∃ value after, cursor.readSigned = .ok (value, after) ∧ after.BreaksAt place := by
  rw [Cursor.readSigned, Leb128.decodeSigned]
  rcases hbreaks.decodeWith Leb128.signedDigit with ⟨hnone, rfl⟩ | ⟨value, size, hsome, hafter⟩
  · rw [hnone]
    exact .inl rfl
  · rw [hsome]
    exact .inr ⟨_, _, rfl, hafter⟩

theorem start (hbreaks : cursor.BreaksAt place) :
    GroupReader.start cursor = .error (.invalidLeb128 place) ∨
      ∃ reader, GroupReader.start cursor = .ok reader ∧ reader.cursor.BreaksAt place := by
  rw [GroupReader.start]
  rcases hbreaks.readSigned with hfailed | ⟨count, after, hread, hafter⟩
  · rw [hfailed]
    exact .inl rfl
  · rw [hread]
    exact .inr ⟨_, rfl, hafter⟩

/-- A step at the end of the group leaves the reader as it is, and any other one
fails at the cut value or comes to a stand in front of it. -/
theorem next {reader : GroupReader} (hbreaks : reader.cursor.BreaksAt place) :
    reader.next = (none, reader) ∨
      (∃ after, reader.next = (some (.error (.invalidLeb128 place)), after)) ∨
      ∃ handler after, reader.next = (some (.ok handler), after) ∧
        after.cursor.BreaksAt place := by
  obtain ⟨cursor, typed, catchAll⟩ := reader
  cases typed with
  | succ typed =>
      right
      rcases hbreaks.readUnsigned with hfailed | ⟨typeIndex, middle, htype, hmiddle⟩
      · simp only [GroupReader.next, hfailed]
        exact .inl ⟨_, rfl⟩
      · rcases hmiddle.readUnsigned with hfailed | ⟨address, last, haddress, hlast⟩
        · simp only [GroupReader.next, htype, hfailed]
          exact .inl ⟨_, rfl⟩
        · simp only [GroupReader.next, htype, haddress]
          exact .inr ⟨_, _, rfl, hlast⟩
  | zero =>
      cases catchAll with
      | true =>
          right
          rcases hbreaks.readUnsigned with hfailed | ⟨address, last, haddress, hlast⟩
          · simp only [GroupReader.next, hfailed]
            exact .inl ⟨_, rfl⟩
          · simp only [GroupReader.next, haddress]
            exact .inr ⟨_, _, rfl, hlast⟩
      | false => exact .inl rfl

/-- Draining a group fails at the cut value or ends before it. -/
theorem drain {reader : GroupReader} (hbreaks : reader.cursor.BreaksAt place) :
    (∃ handlers, reader.drain = (handlers, .error (.invalidLeb128 place))) ∨
      ∃ handlers after, reader.drain = (handlers, .ok after) ∧ after.BreaksAt place := by
  induction reader using GroupReader.drain.induct with
  | case1 reader after hnext =>
      obtain ⟨-, rfl⟩ := GroupReader.kinds_eq_nil_of_next hnext
      exact .inr ⟨[], _, GroupReader.drain_of_next_none hnext, hbreaks⟩
  | case2 reader error after hnext =>
      have hstep := hbreaks.next
      rw [hnext] at hstep
      obtain rfl : error = .invalidLeb128 place := by simpa using hstep
      exact .inl ⟨[], GroupReader.drain_of_next_error hnext⟩
  | case3 reader handler after hnext _ _ _ _ ih =>
      have hstep := hbreaks.next
      rw [hnext] at hstep
      have hafter : after.cursor.BreaksAt place := by simpa using hstep
      rw [GroupReader.drain_of_next_ok hnext]
      rcases ih hafter with ⟨handlers, hrest⟩ | ⟨handlers, last, hrest, hlast⟩
      · rw [hrest]
        exact .inl ⟨_, rfl⟩
      · rw [hrest]
        exact .inr ⟨_, last, rfl, hlast⟩

end Cursor.BreaksAt

namespace HandlerList

theorem invalidLeb128_of_walkFrom {count place : Nat} {cursor : Cursor} {error : ReadError}
    (hbreaks : cursor.BreaksAt place) (hending : (walkFrom count cursor).ending = .error error) :
    error = .invalidLeb128 place := by
  induction count generalizing cursor with
  | zero => cases hending
  | succ count ih =>
      rcases hbreaks.start with hfailed | ⟨reader, hstart, hreader⟩
      · simp only [walkFrom, hfailed, Except.error.injEq] at hending
        exact hending.symm
      · rcases hreader.drain with ⟨handlers, hfailed⟩ | ⟨handlers, after, hdrain, hafter⟩
        · simp only [walkFrom, hstart, hfailed, Except.error.injEq] at hending
          exact hending.symm
        · simp only [walkFrom, hstart, hdrain] at hending
          exact ih hafter hending

/-- The only error of a cut list names the cut value. -/
theorem invalidLeb128_of_extent {data : Bytes} {place : Nat} {error : ReadError} (hdata : data ≠ [])
    (hbreaks : (Cursor.ofOffset data 0).BreaksAt place) (hextent : extent data = .error error) :
    error = .invalidLeb128 place := by
  rw [extent, if_neg (by simpa using hdata), walk_eq_of_ne_nil hdata] at hextent
  rcases hbreaks.readUnsigned with hfailed | ⟨count, after, hcount, hafter⟩
  · rw [hfailed] at hextent
    exact (Except.error.inj hextent).symm
  · rw [hcount] at hextent
    exact invalidLeb128_of_walkFrom hafter hextent

/-- No list begins with another one. -/
theorem Encodes.eq_of_isPrefix {left right : Bytes} {groups others : List (List Handler)}
    (hleft : Encodes left groups) (hright : Encodes right others) (hbegins : left <+: right) :
    left = right := by
  have hshort := extent_eq_ok_iff.mpr ⟨left, groups, hbegins, hleft, rfl⟩
  have hlong := extent_eq_ok_iff.mpr ⟨right, others, List.prefix_refl right, hright, rfl⟩
  exact hbegins.eq_of_length (Except.ok.inj (hshort.symm.trans hlong))

end HandlerList

/-! ## Cut lists -/

theorem Cursor.breaksAt_of_firstCut {forms : List Bytes} {size position place : Nat}
    (hforms : ∀ form ∈ forms, Leb128.IsForm 5 form)
    (hcut : Leb128.firstCut size position forms = some place) :
    BreaksAt ⟨forms.flatten.take (size - position), position⟩ place := by
  induction forms generalizing position with
  | nil => cases hcut
  | cons first forms ih =>
      obtain ⟨hfirst, hrest⟩ := List.forall_mem_cons.mp hforms
      rw [Leb128.firstCut] at hcut
      rw [List.flatten_cons]
      by_cases hwhole : position + first.length ≤ size
      · rw [if_pos hwhole] at hcut
        refine .behind hfirst ⟨?_, rfl⟩ (ih hrest hcut)
        rw [List.take_append, List.take_of_length_le (by omega), Nat.sub_sub]
      · rw [if_neg hwhole] at hcut
        obtain rfl := Option.some.inj hcut
        have hpositive := List.length_pos_iff.mpr hfirst.ne_nil
        have hinside : size - position < first.length := by omega
        rw [List.take_append_of_le_length (Nat.le_of_lt hinside)]
        exact .here (hfirst.le_of_mem_take hinside)

namespace HandlerList

/-- Why a list is not complete in the first `size` of its bytes, if it is not. -/
def cutError (handlers : Bytes) (size : Nat) : Option ReadError :=
  if size = 0 then
    some (.truncated "encoded_catch_handler_list" 0)
  else
    (Leb128.firstCut size 0 (Leb128.values handlers)).map .invalidLeb128

/-- A list is not cut if all of it is there. -/
theorem cutError_eq_none_iff {handlers : Bytes} {size : Nat} (hhandlers : handlers ≠ []) :
    cutError handlers size = none ↔ handlers.length ≤ size := by
  have hpositive := List.length_pos_iff.mpr hhandlers
  rw [cutError]
  by_cases hnothing : size = 0
  · rw [if_pos hnothing]
    simp
    omega
  · rw [if_neg hnothing, Option.map_eq_none_iff, Leb128.firstCut_eq_none_iff (Nat.zero_le size),
      Leb128.flatten_values, Nat.zero_add]

/-- What is left of a list that is cut is not a shorter list. -/
theorem extent_take_ne_ok {handlers : Bytes} {groups : List (List Handler)} {size : Nat}
    (hencodes : Encodes handlers groups) (hinside : size < handlers.length) (length : Nat) :
    extent (handlers.take size) ≠ .ok length := by
  intro hextent
  obtain ⟨bytes, others, hbegins, hbytes, -⟩ := extent_eq_ok_iff.mp hextent
  have hwithin := hbegins.trans (List.take_prefix size handlers)
  have hlength := hbegins.length_le
  rw [hbytes.eq_of_isPrefix hencodes hwithin, List.length_take] at hlength
  omega

/-- How the extent of a list is found in data that may end inside of it. -/
theorem extent_take {handlers : Bytes} {groups : List (List Handler)}
    (hencodes : Encodes handlers groups) (rest : Bytes) (size : Nat) :
    extent ((handlers ++ rest).take size) =
      (cutError handlers size).elim (.ok handlers.length) .error := by
  by_cases hwhole : handlers.length ≤ size
  · rw [(cutError_eq_none_iff hencodes.ne_nil).mpr hwhole]
    apply extent_eq_ok_iff.mpr
    refine ⟨handlers, groups, ?_, hencodes, rfl⟩
    rw [List.take_append, List.take_of_length_le hwhole]
    exact List.prefix_append _ _
  · have hinside := Nat.lt_of_not_le hwhole
    rw [List.take_append_of_le_length (Nat.le_of_lt hinside), cutError]
    by_cases hnothing : size = 0
    · rw [if_pos hnothing, hnothing]
      rfl
    · rw [← cutError_eq_none_iff hencodes.ne_nil, cutError, if_neg hnothing,
        Option.map_eq_none_iff] at hwhole
      obtain ⟨place, hplace⟩ := Option.ne_none_iff_exists'.mp hwhole
      -- The walk either stops at the cut value or would end before it.
      have hbreaks := Cursor.breaksAt_of_firstCut (areValues_of_encodes hencodes) hplace
      rw [Leb128.flatten_values, Nat.sub_zero] at hbreaks
      rw [if_neg hnothing, hplace]
      cases hextent : extent (handlers.take size) with
      | error error =>
          have hdata : handlers.take size ≠ [] := by
            rw [← List.length_pos_iff, List.length_take]
            omega
          exact congrArg Except.error (invalidLeb128_of_extent hdata hbreaks hextent)
      | ok length => exact absurd hextent (extent_take_ne_ok hencodes hinside length)

end HandlerList

end DalvikPrepass
