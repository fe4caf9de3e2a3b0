import DalvikPrepass.Leb128

/-!
# Handler groups

The exception handlers of a try range form a group.  A group is written as a
signed count, that many typed handlers as pairs of type index and address, and,
if the count is zero or negative, the address of a catch-all.  A group is read
one handler at a time by a `GroupReader`.
-/

namespace DalvikPrepass

structure Handler where
  /-- Index of the exception type; `none` for a catch-all. -/
  typeIndex : Option UInt32
  /-- Entry point of the handler, in code units. -/
  address : UInt32
  deriving DecidableEq, Repr

namespace Cursor

/-- The unsigned value at the cursor. -/
def readUnsigned (cursor : Cursor) : Except ReadError (UInt32 × Cursor) :=
  match Leb128.decodeUnsigned cursor.rest with
  | some (value, size) => .ok (value, cursor.skip size)
  | none => .error (.invalidLeb128 cursor.position)

/-- The signed value at the cursor. -/
def readSigned (cursor : Cursor) : Except ReadError (Int32 × Cursor) :=
  match Leb128.decodeSigned cursor.rest with
  | some (value, size) => .ok (value, cursor.skip size)
  | none => .error (.invalidLeb128 cursor.position)

end Cursor

/-- A group that has been read in part. -/
structure GroupReader where
  cursor : Cursor
  /-- Typed handlers still to come. -/
  typedLeft : Nat
  /-- Whether a catch-all is still to come. -/
  catchAllLeft : Bool
  deriving DecidableEq, Repr

namespace GroupReader

/-- Reads the count of the group at the cursor. -/
def start (cursor : Cursor) : Except ReadError GroupReader := do
  let (count, cursor) ← cursor.readSigned
  return ⟨cursor, count.toInt.natAbs, count.toInt ≤ 0⟩

/-- Offset just past the values read so far.  Once no handler is left this is
where the next group starts. -/
def position (reader : GroupReader) : Nat :=
  reader.cursor.position

/-- Handlers still to come. -/
def remaining (reader : GroupReader) : Nat :=
  reader.typedLeft + reader.catchAllLeft.toNat

/-- Gives up the rest of the group, with the cursor where it came to stand. -/
def abandon (cursor : Cursor) : GroupReader :=
  ⟨cursor, 0, false⟩

/-- The next handler or the error that ends the group, and the reader after it;
`none` once the group has ended. -/
def next (reader : GroupReader) : Option (Except ReadError Handler) × GroupReader :=
  match reader.typedLeft, reader.catchAllLeft with
  | typed + 1, catchAll =>
      match reader.cursor.readUnsigned with
      | .error error => (some (.error error), abandon reader.cursor)
      | .ok (typeIndex, cursor) =>
          match cursor.readUnsigned with
          | .error error => (some (.error error), abandon cursor)
          | .ok (address, cursor) =>
              (some (.ok ⟨some typeIndex, address⟩), ⟨cursor, typed, catchAll⟩)
  | 0, true =>
      match reader.cursor.readUnsigned with
      | .error error => (some (.error error), abandon reader.cursor)
      | .ok (address, cursor) => (some (.ok ⟨none, address⟩), ⟨cursor, 0, false⟩)
  | 0, false => (none, reader)

theorem remaining_next_lt {reader after : GroupReader} {item : Except ReadError Handler}
    (hnext : reader.next = (some item, after)) : after.remaining < reader.remaining := by
  obtain ⟨cursor, typed, catchAll⟩ := reader
  cases typed with
  | succ typed =>
      simp only [next] at hnext
      repeat' split at hnext
      all_goals
        simp only [Prod.mk.injEq] at hnext
        simp only [← hnext.2, remaining, abandon, Bool.toNat_false]
        omega
  | zero =>
      cases catchAll with
      | true =>
          simp only [next] at hnext
          split at hnext
          all_goals
            simp only [Prod.mk.injEq] at hnext
            simp only [← hnext.2, remaining, abandon, Bool.toNat_false, Bool.toNat_true]
            omega
      | false => simp [next] at hnext

/-- All handlers still to come, and the cursor after the last one or the error
that cut them short. -/
def drain (reader : GroupReader) : List Handler × Except ReadError Cursor :=
  match hnext : reader.next with
  | (none, after) => ([], .ok after.cursor)
  | (some (.error error), _) => ([], .error error)
  | (some (.ok handler), after) =>
      have : after.remaining < reader.remaining := remaining_next_lt hnext
      let (handlers, ending) := drain after
      (handler :: handlers, ending)
termination_by reader.remaining

end GroupReader

end DalvikPrepass
