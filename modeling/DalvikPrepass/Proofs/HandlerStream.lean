import Mathlib
import DalvikPrepass.Proofs.HandlerGrammar

/-!
# Handler lists as streams

Read from its front, a handler list is a stream of values.  Where the next value
is missing the reading stops, and the handlers in front of that place have been
found all the same.  Every byte string reads in just one way, which is what a
walk over the list finds.
-/

namespace DalvikPrepass

namespace Leb128

/-- The bytes do not begin with a value. -/
def NoValue (bytes : Bytes) : Prop :=
  ∀ form, form <+: bytes → ¬IsForm 5 form

/-- Bytes start with a form or with no value at all. -/
theorem noValue_or_form (bytes : Bytes) :
    NoValue bytes ∨ ∃ form rest, bytes = form ++ rest ∧ IsForm 5 form := by
  by_cases hnone : NoValue bytes
  · exact .inl hnone
  · simp only [NoValue, not_forall, not_not] at hnone
    obtain ⟨form, ⟨rest, hrest⟩, hform⟩ := hnone
    exact .inr ⟨form, rest, hrest.symm, hform⟩

theorem noValue_or_unsigned (bytes : Bytes) :
    NoValue bytes ∨ ∃ form rest value, bytes = form ++ rest ∧ EncodesUnsigned form value := by
  rcases noValue_or_form bytes with hnone | ⟨form, rest, hbytes, hform⟩
  · exact .inl hnone
  · refine .inr ⟨form, rest, UInt32.ofNat (digitSum form), hbytes, hform, ?_⟩
    exact UInt32.toNat_ofNat'

theorem noValue_or_signed (bytes : Bytes) :
    NoValue bytes ∨ ∃ form rest value, bytes = form ++ rest ∧ EncodesSigned form value := by
  rcases noValue_or_form bytes with hnone | ⟨form, rest, hbytes, hform⟩
  · exact .inl hnone
  · exact .inr ⟨form, rest, _, hbytes, hform, rfl⟩

/-- Nothing is decoded just where no value starts. -/
theorem decodeWith_eq_none_iff {bytes : Bytes} (last : UInt8 → UInt32) :
    decodeWith last maxBytes bytes = none ↔ NoValue bytes := by
  constructor
  · rintro hnone form ⟨rest, rfl⟩ hform
    have hsome : decodeWith last maxBytes (form ++ rest) = some _ :=
      decodeWith_append last rest hform
    simp [hsome] at hnone
  · intro hnone
    rw [Option.eq_none_iff_forall_ne_some]
    intro result hdecode
    obtain ⟨form, rest, hbytes, hform⟩ := exists_form_of_decodeWith hdecode
    exact hnone form ⟨rest, hbytes.symm⟩ hform

end Leb128

open Leb128 (NoValue EncodesUnsigned EncodesSigned)

namespace Cursor

theorem passes_front (front rest : Bytes) (position : Nat) :
    (⟨front ++ rest, position⟩ : Cursor).Passes front ⟨rest, position + front.length⟩ :=
  ⟨rfl, rfl⟩

theorem readUnsigned_of_noValue {cursor : Cursor} (hnone : NoValue cursor.rest) :
    cursor.readUnsigned = .error (.invalidLeb128 cursor.position) := by
  rw [readUnsigned, Leb128.decodeUnsigned, (Leb128.decodeWith_eq_none_iff _).mpr hnone]

theorem readSigned_of_noValue {cursor : Cursor} (hnone : NoValue cursor.rest) :
    cursor.readSigned = .error (.invalidLeb128 cursor.position) := by
  rw [readSigned, Leb128.decodeSigned, (Leb128.decodeWith_eq_none_iff _).mpr hnone,
    Option.map_none]

end Cursor

namespace GroupReader

theorem next_of_noValue {reader : GroupReader} (hkinds : reader.kinds ≠ [])
    (hnone : NoValue reader.cursor.rest) :
    reader.next = (some (.error (.invalidLeb128 reader.cursor.position)),
      abandon reader.cursor) := by
  have hread := Cursor.readUnsigned_of_noValue hnone
  obtain ⟨cursor, typed, catchAll⟩ := reader
  cases typed with
  | succ typed =>
      rw [next]
      simp only [hread]
  | zero =>
      cases catchAll with
      | true =>
          rw [next]
          simp only [hread]
      | false => exact absurd rfl hkinds

/-- A typed handler whose type is there and whose address is not. -/
theorem next_of_noAddress {reader : GroupReader} {kinds : List Bool} {front : Bytes}
    {typeIndex : UInt32} {middle : Cursor} (hkinds : reader.kinds = true :: kinds)
    (htype : EncodesUnsigned front typeIndex) (hpasses : reader.cursor.Passes front middle)
    (hnone : NoValue middle.rest) :
    reader.next = (some (.error (.invalidLeb128 middle.position)), abandon middle) := by
  have hreadType := Cursor.readUnsigned_eq_ok_iff.mpr ⟨front, htype, hpasses⟩
  have hreadAddress := Cursor.readUnsigned_of_noValue hnone
  obtain ⟨cursor, typed, catchAll⟩ := reader
  cases typed with
  | succ typed =>
      rw [next]
      simp only [hreadType, hreadAddress]
  | zero => cases catchAll <;> simp [GroupReader.kinds] at hkinds

end GroupReader

namespace HandlerList

/-! ## What a stream reads as -/

/-- The bytes, which start at `position`, read as these handlers.  First come
the ones of the group at hand, of the given kinds, then `groups` more groups.
The last part says where the reading stops: behind the last value, or with an
error where the next one should have been. -/
inductive ReadsFrom : (kinds : List Bool) → (groups position : Nat) → Bytes → List Handler →
    Except Nat Nat → Prop
  | finished {position : Nat} {rest : Bytes} : ReadsFrom [] 0 position rest [] (.ok position)
  | group {groups position : Nat} {front rest : Bytes} {count : Int32} {handlers : List Handler}
      {stop : Except Nat Nat} (hcount : EncodesSigned front count)
      (hrest : ReadsFrom (groupShape count) groups (position + front.length) rest handlers stop) :
      ReadsFrom [] (groups + 1) position (front ++ rest) handlers stop
  | handler {kinds : List Bool} {groups position : Nat} {front rest : Bytes} {handler : Handler}
      {handlers : List Handler} {stop : Except Nat Nat} (hencodes : handler.Encodes front)
      (hrest : ReadsFrom kinds groups (position + front.length) rest handlers stop) :
      ReadsFrom (handler.isTyped :: kinds) groups position (front ++ rest) (handler :: handlers)
        stop
  | noCount {groups position : Nat} {rest : Bytes} (hnone : NoValue rest) :
      ReadsFrom [] (groups + 1) position rest [] (.error position)
  | noHandler {kind : Bool} {kinds : List Bool} {groups position : Nat} {rest : Bytes}
      (hnone : NoValue rest) : ReadsFrom (kind :: kinds) groups position rest [] (.error position)
  | noAddress {kinds : List Bool} {groups position : Nat} {front rest : Bytes}
      {typeIndex : UInt32} (htype : EncodesUnsigned front typeIndex) (hnone : NoValue rest) :
      ReadsFrom (true :: kinds) groups position (front ++ rest) []
        (.error (position + front.length))

/-- The data reads as these handlers, the count of the groups being the first
value.  No data at all is a list of no groups. -/
inductive ReadsAs : Bytes → List Handler → Except Nat Nat → Prop
  | absent : ReadsAs [] [] (.ok 0)
  | noCount {data : Bytes} (hdata : data ≠ []) (hnone : NoValue data) : ReadsAs data [] (.error 0)
  | list {front rest : Bytes} {count : UInt32} {handlers : List Handler} {stop : Except Nat Nat}
      (hcount : EncodesUnsigned front count)
      (hgroups : ReadsFrom [] count.toNat front.length rest handlers stop) :
      ReadsAs (front ++ rest) handlers stop

/-- If the bytes read in some way without the next handler, then also with it. -/
theorem exists_readsFrom_cons {kinds : List Bool} {groups : Nat}
    (hrest : ∀ position bytes, ∃ handlers stop,
      ReadsFrom kinds groups position bytes handlers stop)
    (kind : Bool) (position : Nat) (bytes : Bytes) :
    ∃ handlers stop, ReadsFrom (kind :: kinds) groups position bytes handlers stop := by
  rcases Leb128.noValue_or_unsigned bytes with hnone | ⟨front, rest, value, rfl, hvalue⟩
  · exact ⟨_, _, .noHandler hnone⟩
  · cases kind with
    | false =>
        obtain ⟨_, _, hreads⟩ := hrest (position + front.length) rest
        exact ⟨_, _, .handler (.catchAll hvalue) hreads⟩
    | true =>
        rcases Leb128.noValue_or_unsigned rest with hnone | ⟨second, rest, address, rfl, haddress⟩
        · exact ⟨_, _, .noAddress hvalue hnone⟩
        · obtain ⟨_, _, hreads⟩ := hrest (position + (front ++ second).length) rest
          rw [← List.append_assoc]
          exact ⟨_, _, .handler (.typed hvalue haddress) hreads⟩

theorem exists_readsFrom (kinds : List Bool) (groups position : Nat) (bytes : Bytes) :
    ∃ handlers stop, ReadsFrom kinds groups position bytes handlers stop := by
  -- A count brings in as many handlers as it likes, but takes one off the groups.
  induction groups generalizing kinds position bytes with
  | zero =>
      induction kinds generalizing position bytes with
      | nil => exact ⟨_, _, .finished⟩
      | cons kind kinds ih => exact exists_readsFrom_cons ih kind position bytes
  | succ groups ihGroups =>
      induction kinds generalizing position bytes with
      | nil =>
          rcases Leb128.noValue_or_signed bytes with hnone | ⟨front, rest, count, rfl, hcount⟩
          · exact ⟨_, _, .noCount hnone⟩
          · obtain ⟨_, _, hrest⟩ :=
              ihGroups (groupShape count) (position + front.length) rest
            exact ⟨_, _, .group hcount hrest⟩
      | cons kind kinds ih => exact exists_readsFrom_cons ih kind position bytes

/-- Every byte string reads as some stream. -/
theorem exists_readsAs (data : Bytes) : ∃ handlers stop, ReadsAs data handlers stop := by
  by_cases hdata : data = []
  · rw [hdata]
    exact ⟨_, _, .absent⟩
  · rcases Leb128.noValue_or_unsigned data with hnone | ⟨front, rest, count, rfl, hcount⟩
    · exact ⟨_, _, .noCount hdata hnone⟩
    · obtain ⟨handlers, stop, hgroups⟩ := exists_readsFrom [] count.toNat front.length rest
      exact ⟨handlers, stop, .list hcount hgroups⟩

/-! ## Walks over streams -/

/-- What the rest of a group and `groups` more behind it give. -/
def resume (reader : GroupReader) (groups : Nat) : List Handler × Except ReadError Nat :=
  match reader.drain with
  | (handlers, .error error) => (handlers, .error error)
  | (handlers, .ok after) =>
      (handlers ++ (walkFrom groups after).handlers, (walkFrom groups after).ending)

section Resume

variable {reader after : GroupReader} {groups : Nat}

theorem resume_of_next_ok {handler : Handler} (hnext : reader.next = (some (.ok handler), after)) :
    resume reader groups = (handler :: (resume after groups).1, (resume after groups).2) := by
  rw [resume, resume, GroupReader.drain_of_next_ok hnext]
  obtain ⟨handlers, outcome⟩ := after.drain
  cases outcome <;> rfl

theorem resume_of_next_error {error : ReadError}
    (hnext : reader.next = (some (.error error), after)) :
    resume reader groups = ([], .error error) := by
  rw [resume, GroupReader.drain_of_next_error hnext]

theorem resume_of_kinds_nil (hkinds : reader.kinds = []) :
    resume reader groups =
      ((walkFrom groups reader.cursor).handlers, (walkFrom groups reader.cursor).ending) := by
  rw [resume, GroupReader.drain_of_next_none (GroupReader.next_of_kinds_nil hkinds)]
  rfl

theorem walkFrom_of_start {cursor : Cursor} (hstart : GroupReader.start cursor = .ok reader) :
    ((walkFrom (groups + 1) cursor).handlers, (walkFrom (groups + 1) cursor).ending) =
      resume reader groups := by
  cases hdrain : reader.drain with
  | mk handlers outcome =>
      cases outcome with
      | error error =>
          simp only [walkFrom, hstart, resume, hdrain]
          rfl
      | ok after =>
          simp only [walkFrom, hstart, resume, hdrain, HandlerWalk.handlers, List.flatMap_cons,
            List.append_assoc]

end Resume

/-- A walk finds what the stream reads as, from wherever it goes on. -/
theorem resume_of_readsFrom {kinds : List Bool} {groups position : Nat} {bytes : Bytes}
    {handlers : List Handler} {stop : Except Nat Nat}
    (hreads : ReadsFrom kinds groups position bytes handlers stop) {reader : GroupReader}
    (hcursor : reader.cursor = ⟨bytes, position⟩) (hkinds : reader.kinds = kinds) :
    resume reader groups = (handlers, stop.mapError .invalidLeb128) := by
  -- Of the reader nothing counts but where it stands and which handlers it waits for.
  induction hreads generalizing reader with
  | finished =>
      rw [resume_of_kinds_nil hkinds, hcursor]
      rfl
  | @group groups position front rest count handlers stop hcount _ ih =>
      have hpasses := Cursor.passes_front front rest position
      obtain ⟨first, hstart, hafter, hshape⟩ := GroupReader.start_of_encodes hcount hpasses
      rw [resume_of_kinds_nil hkinds, hcursor, walkFrom_of_start hstart, ih hafter hshape]
  | @handler kinds groups position front rest handler handlers stop hencodes _ ih =>
      obtain ⟨after, hafter, hrest⟩ :=
        GroupReader.exists_reader_of_kinds_cons hkinds ⟨rest, position + front.length⟩
      have hpasses : reader.cursor.Passes front after.cursor := by
        rw [hcursor, hafter]
        exact Cursor.passes_front front rest position
      have hnext := GroupReader.next_of_encodes hencodes hpasses (by rw [hkinds, hrest])
      rw [resume_of_next_ok hnext, ih hafter hrest]
  | @noCount groups position rest hnone =>
      have hstart : GroupReader.start ⟨rest, position⟩ = .error (.invalidLeb128 position) := by
        rw [GroupReader.start, Cursor.readSigned_of_noValue hnone]
        rfl
      rw [resume_of_kinds_nil hkinds, hcursor, walkFrom, hstart]
      rfl
  | noHandler hnone =>
      have hleft : reader.kinds ≠ [] := by simp [hkinds]
      have hbytes : NoValue reader.cursor.rest := by rwa [hcursor]
      rw [resume_of_next_error (GroupReader.next_of_noValue hleft hbytes), hcursor]
      rfl
  | @noAddress kinds groups position front rest typeIndex htype hnone =>
      have hpasses : reader.cursor.Passes front ⟨rest, position + front.length⟩ := by
        rw [hcursor]
        exact Cursor.passes_front front rest position
      rw [resume_of_next_error (GroupReader.next_of_noAddress hkinds htype hpasses hnone)]
      rfl

/-- Without a count there is no walk at all, and any other walk finds what the
data reads as. -/
theorem walk_of_readsAs {data : Bytes} {handlers : List Handler} {stop : Except Nat Nat}
    (hreads : ReadsAs data handlers stop) :
    (walk data = .error (.invalidLeb128 0) ∧ handlers = [] ∧ stop = .error 0) ∨
      ∃ found, walk data = .ok found ∧ found.handlers = handlers ∧
        found.ending = stop.mapError .invalidLeb128 := by
  cases hreads with
  | absent => exact .inr ⟨walkFrom 0 (.ofOffset [] 0), rfl, rfl, rfl⟩
  | noCount hdata hnone =>
      have hread : (Cursor.ofOffset data 0).readUnsigned = .error (.invalidLeb128 0) :=
        Cursor.readUnsigned_of_noValue hnone
      refine .inl ⟨?_, rfl, rfl⟩
      rw [walk_eq_of_ne_nil hdata, hread]
      rfl
  | @list front rest count handlers stop hcount hgroups =>
      have hdata : front ++ rest ≠ [] := by simp [hcount.1.ne_nil]
      have hpasses : (Cursor.ofOffset (front ++ rest) 0).Passes front ⟨rest, front.length⟩ :=
        ⟨rfl, (Nat.zero_add _).symm⟩
      have hread := Cursor.readUnsigned_eq_ok_iff.mpr ⟨front, hcount, hpasses⟩
      have hresume : resume ⟨⟨rest, front.length⟩, 0, false⟩ count.toNat =
          (handlers, stop.mapError .invalidLeb128) := resume_of_readsFrom hgroups rfl rfl
      rw [resume_of_kinds_nil rfl] at hresume
      obtain ⟨hfound, hending⟩ := Prod.mk.inj hresume
      refine .inr ⟨walkFrom count.toNat ⟨rest, front.length⟩, ?_, hfound, hending⟩
      rw [walk_eq_of_ne_nil hdata, hread]
      rfl

end HandlerList

end DalvikPrepass
