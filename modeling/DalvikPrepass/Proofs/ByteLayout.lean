import Mathlib
import DalvikPrepass.Bytes

/-!
# Layout of encoded data

Encoded data is described by relations between bytes and what they write, made
without a reader or a writer: little-endian words of a given size and values
one after the other.  The readers of words and of records are shown to get what
these relations say, and a cursor is shown to move over just the bytes it hands
out.
-/

namespace DalvikPrepass

/-- Two steps succeed if each of them does. -/
theorem bind_eq_ok_iff {ε α β : Type} {first : Except ε α} {next : α → Except ε β} {result : β} :
    (first >>= next) = .ok result ↔ ∃ value, first = .ok value ∧ next value = .ok result := by
  cases first <;> simp [bind, Except.bind]

namespace Bytes

/-- The number that the bytes write, lowest byte first. -/
def littleEndian : Bytes → Nat
  | [] => 0
  | byte :: bytes => byte.toNat + 0x100 * littleEndian bytes

/-- The bytes are a little-endian word of `size` bytes with this value. -/
def IsWord (size : Nat) (bytes : Bytes) (value : Nat) : Prop :=
  bytes.length = size ∧ littleEndian bytes = value

/-- The bytes write the values of the list, one after the other and with
nothing in between. -/
inductive Sequence {α : Type} (Encodes : Bytes → α → Prop) : Bytes → List α → Prop
  | nil : Sequence Encodes [] []
  | cons {first rest : Bytes} {value : α} {values : List α} (hfirst : Encodes first value)
      (hrest : Sequence Encodes rest values) :
      Sequence Encodes (first ++ rest) (value :: values)

/-- `read` finds in the first `size` bytes what `Encodes` says they write, and
does not look any further. -/
structure ReadsRecord {α : Type} (size : Nat) (read : Bytes → α)
    (Encodes : Bytes → α → Prop) : Prop where
  encodes : ∀ first rest, first.length = size → Encodes first (read (first ++ rest))
  unique : ∀ {first value} rest, Encodes first value →
    first.length = size ∧ read (first ++ rest) = value

theorem littleEndian_lt (bytes : Bytes) : littleEndian bytes < 0x100 ^ bytes.length := by
  induction bytes with
  | nil => simp [littleEndian]
  | cons byte bytes ih =>
      have hbyte := byte.toNat_lt
      simp only [littleEndian, List.length_cons, pow_succ]
      omega

theorem littleEndian_append (left right : Bytes) :
    littleEndian (left ++ right) = littleEndian left + 0x100 ^ left.length * littleEndian right := by
  induction left with
  | nil => simp [littleEndian]
  | cons byte left ih =>
      simp only [List.cons_append, littleEndian, ih, List.length_cons, pow_succ]
      ring

/-- The lower part of a word is written first. -/
theorem IsWord.append {leftSize rightSize low high : Nat} {left right : Bytes}
    (hleft : IsWord leftSize left low) (hright : IsWord rightSize right high) :
    IsWord (leftSize + rightSize) (left ++ right) (low + 0x100 ^ leftSize * high) := by
  obtain ⟨hleftLength, hleftValue⟩ := hleft
  obtain ⟨hrightLength, hrightValue⟩ := hright
  constructor
  · rw [List.length_append, hleftLength, hrightLength]
  · calc littleEndian (left ++ right)
        = littleEndian left + 0x100 ^ left.length * littleEndian right :=
          littleEndian_append left right
      _ = low + 0x100 ^ leftSize * high := by rw [hleftLength, hleftValue, hrightValue]

theorem word16_append {first : Bytes} (rest : Bytes) (hlength : first.length = 2) :
    (word16 (first ++ rest)).toNat = littleEndian first := by
  obtain ⟨low, high, rfl⟩ := List.length_eq_two.mp hlength
  have hlow := low.toNat_lt
  have hhigh := high.toNat_lt
  simp [word16, littleEndian, UInt16.toNat_add, UInt16.toNat_mul]
  omega

theorem word32_append {first : Bytes} (rest : Bytes) (hlength : first.length = 4) :
    (word32 (first ++ rest)).toNat = littleEndian first := by
  have hlow : (first.take 2).length = 2 := by simp [hlength]
  have hhigh : (first.drop 2).length = 2 := by simp [hlength]
  have hfirst := littleEndian_append (first.take 2) (first.drop 2)
  rw [List.take_append_drop, hlow] at hfirst
  have hlowWord := word16_append (first.drop 2 ++ rest) hlow
  have hhighWord := word16_append rest hhigh
  have hlowValue := littleEndian_lt (first.take 2)
  have hhighValue := littleEndian_lt (first.drop 2)
  rw [← List.append_assoc, List.take_append_drop] at hlowWord
  rw [hlow] at hlowValue
  rw [hhigh] at hhighValue
  have hdrop : (first ++ rest).drop 2 = first.drop 2 ++ rest :=
    List.drop_append_of_le_length (by omega)
  simp [word32, UInt32.toNat_add, UInt32.toNat_mul, hdrop, hlowWord, hhighWord]
  omega

/-- A two-byte word as it is written. -/
theorem isWord_ofWord16 (word : UInt16) : IsWord 2 (ofWord16 word) word.toNat := by
  have hword := word.toNat_lt
  refine ⟨rfl, ?_⟩
  simp [ofWord16, littleEndian]
  omega

/-- A four-byte word as it is written. -/
theorem isWord_ofWord32 (word : UInt32) : IsWord 4 (ofWord32 word) word.toNat := by
  have hword := word.toNat_lt
  have happend :=
    (isWord_ofWord16 word.toUInt16).append (isWord_ofWord16 (word / 0x10000).toUInt16)
  refine ⟨happend.1, happend.2.trans ?_⟩
  simp
  omega

section Records

variable {α : Type} {size : Nat} {read : Bytes → α} {Encodes : Bytes → α → Prop}

theorem recordsFrom_eq (count : Nat) (bytes : Bytes) (earlier : List α) :
    recordsFrom size read count bytes earlier =
      earlier.reverse ++ recordsFrom size read count bytes [] := by
  induction count generalizing bytes earlier with
  | zero => simp [recordsFrom]
  | succ count ih =>
      simp only [recordsFrom]
      rw [ih, ih (bytes.drop size) [read bytes]]
      simp

theorem records_zero (bytes : Bytes) : records size read 0 bytes = [] := rfl

theorem records_succ (count : Nat) (bytes : Bytes) :
    records size read (count + 1) bytes =
      read bytes :: records size read count (bytes.drop size) := by
  simp only [records, recordsFrom]
  rw [recordsFrom_eq]
  rfl

/-- Records of one size lie one after the other exactly as they are read. -/
theorem sequence_iff_records (hread : ReadsRecord size read Encodes) (bytes : Bytes)
    (values : List α) :
    Sequence Encodes bytes values ↔
      bytes.length = values.length * size ∧ records size read values.length bytes = values := by
  constructor
  · intro hsequence
    induction hsequence with
    | nil => simp [records_zero]
    | @cons first rest value values hfirst _ ih =>
        obtain ⟨hlength, hvalue⟩ := hread.unique rest hfirst
        constructor
        · calc (first ++ rest).length = size + values.length * size := by
                rw [List.length_append, hlength, ih.1]
            _ = (value :: values).length * size := by
                rw [List.length_cons, Nat.succ_mul, Nat.add_comm]
        · rw [List.length_cons, records_succ, hvalue, ← hlength, List.drop_left, hlength, ih.2]
  · intro ⟨hlength, hrecords⟩
    induction values generalizing bytes with
    | nil =>
        have hnil : bytes = [] := List.length_eq_zero_iff.mp (by simpa using hlength)
        subst hnil
        exact .nil
    | cons value values ih =>
        rw [List.length_cons, Nat.succ_mul] at hlength
        rw [List.length_cons, records_succ] at hrecords
        obtain ⟨hvalue, hvalues⟩ := List.cons.inj hrecords
        have hfirst : (bytes.take size).length = size := by
          rw [List.length_take]
          omega
        have hencodes := hread.encodes (bytes.take size) (bytes.drop size) hfirst
        rw [List.take_append_drop, hvalue] at hencodes
        have hrest := ih (bytes.drop size) (by rw [List.length_drop]; omega) hvalues
        rw [← List.take_append_drop size bytes]
        exact .cons hencodes hrest

theorem length_records (count : Nat) (bytes : Bytes) :
    (records size read count bytes).length = count := by
  induction count generalizing bytes with
  | zero => rfl
  | succ count ih => rw [records_succ, List.length_cons, ih]

/-- Any bytes of the right length are a sequence of records. -/
theorem sequence_records (hread : ReadsRecord size read Encodes) {count : Nat} {bytes : Bytes}
    (hlength : bytes.length = count * size) :
    Sequence Encodes bytes (records size read count bytes) := by
  rw [sequence_iff_records hread, length_records]
  exact ⟨hlength, rfl⟩

end Records

/-- Sequences that are written one after the other are one sequence. -/
theorem Sequence.append {α : Type} {Encodes : Bytes → α → Prop} {left right : Bytes}
    {values others : List α} (hleft : Sequence Encodes left values)
    (hright : Sequence Encodes right others) :
    Sequence Encodes (left ++ right) (values ++ others) := by
  induction hleft with
  | nil => exact hright
  | cons hfirst _ ih =>
      rw [List.append_assoc, List.cons_append]
      exact .cons hfirst ih

/-- A writer that encodes each value encodes lists value by value. -/
theorem Sequence.flatMap {ι α : Type} {Encodes : Bytes → α → Prop} {write : ι → Bytes}
    {value : ι → α} {items : List ι} (hwrite : ∀ item ∈ items, Encodes (write item) (value item)) :
    Sequence Encodes (items.flatMap write) (items.map value) := by
  induction items with
  | nil => exact .nil
  | cons item items ih =>
      rw [List.flatMap_cons, List.map_cons]
      apply Sequence.cons
      · exact hwrite item List.mem_cons_self
      · apply ih
        intro other hother
        exact hwrite other (List.mem_cons_of_mem item hother)

theorem Sequence.flatMap_self {α : Type} {Encodes : Bytes → α → Prop} {write : α → Bytes}
    {values : List α} (hwrite : ∀ value ∈ values, Encodes (write value) value) :
    Sequence Encodes (values.flatMap write) values := by
  have hsequence : Sequence Encodes (values.flatMap write) (values.map id) :=
    Sequence.flatMap hwrite
  rwa [List.map_id] at hsequence

end Bytes

namespace Cursor

/-- The bytes lie at the cursor, and `after` stands just past them. -/
def Passes (cursor : Cursor) (bytes : Bytes) (after : Cursor) : Prop :=
  cursor.rest = bytes ++ after.rest ∧ after.position = cursor.position + bytes.length

theorem Passes.refl (cursor : Cursor) : cursor.Passes [] cursor :=
  ⟨rfl, rfl⟩

/-- Passing over one piece and then the next is passing over both. -/
theorem Passes.trans {first second third : Cursor} {left right : Bytes}
    (hleft : first.Passes left second) (hright : second.Passes right third) :
    first.Passes (left ++ right) third := by
  obtain ⟨hfirst, hsecond⟩ := hleft
  constructor
  · calc first.rest = left ++ second.rest := hfirst
      _ = left ++ (right ++ third.rest) := by rw [hright.1]
      _ = left ++ right ++ third.rest := (List.append_assoc left right third.rest).symm
  · calc third.position = second.position + right.length := hright.2
      _ = first.position + left.length + right.length := by rw [hsecond]
      _ = first.position + (left ++ right).length := by rw [List.length_append, Nat.add_assoc]

theorem Passes.eq_skip {cursor after : Cursor} {bytes : Bytes}
    (hpasses : cursor.Passes bytes after) : after = cursor.skip bytes.length := by
  obtain ⟨rest, position⟩ := after
  obtain ⟨hrest, hposition⟩ := hpasses
  simp only at hrest hposition
  rw [skip, hrest, List.drop_left, hposition]

/-- A cursor can pass over what it starts with. -/
theorem passes_skip {cursor : Cursor} {bytes rest : Bytes} (hrest : cursor.rest = bytes ++ rest) :
    cursor.Passes bytes (cursor.skip bytes.length) := by
  refine ⟨?_, rfl⟩
  rw [skip, hrest, List.drop_left]

/-- Passing over two runs of bytes is passing over the first and then over the
second. -/
theorem passes_append {cursor after : Cursor} {left right : Bytes} :
    cursor.Passes (left ++ right) after ↔
      ∃ middle, cursor.Passes left middle ∧ middle.Passes right after := by
  constructor
  · intro ⟨hrest, hposition⟩
    refine ⟨cursor.skip left.length, ⟨?_, rfl⟩, ?_, ?_⟩
    · rw [hrest, skip, hrest, List.append_assoc, List.drop_left]
    · rw [skip, hrest, List.append_assoc, List.drop_left]
    · rw [hposition, List.length_append, skip, Nat.add_assoc]
  · intro ⟨middle, hleft, hright⟩
    exact hleft.trans hright

/-- Taking bytes is passing over that many. -/
theorem take_eq_ok_iff {cursor after : Cursor} {count : Nat} {part : String} {bytes : Bytes} :
    cursor.take count part = .ok (bytes, after) ↔
      bytes.length = count ∧ cursor.Passes bytes after := by
  constructor
  · intro htake
    rw [take] at htake
    split at htake
    · rename_i hcount
      simp only [Except.ok.injEq, Prod.mk.injEq] at htake
      obtain ⟨rfl, rfl⟩ := htake
      have hlength : (cursor.rest.take count).length = count := by
        rw [List.length_take]
        omega
      refine ⟨hlength, (List.take_append_drop count cursor.rest).symm, ?_⟩
      rw [hlength, skip]
    · simp at htake
  · rintro ⟨rfl, hpasses⟩
    obtain ⟨hrest, hposition⟩ := id hpasses
    have hcount : bytes.length ≤ cursor.rest.length := by simp [hrest]
    have htaken : cursor.rest.take bytes.length = bytes := by rw [hrest, List.take_left]
    rw [take, if_pos hcount, htaken, ← hpasses.eq_skip]

end Cursor

end DalvikPrepass
