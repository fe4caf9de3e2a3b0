import Mathlib
import DalvikPrepass.Proofs.HandlerStream

/-!
# The numbers that are read

What a value is worth as a number, said by the bytes at an offset: where it
ends, the sum of its digits, and what its sign takes off.  The two readers stop
behind the same byte or both fail, and what they give are the residues of these
numbers modulo `2 ^ 32` that fit an unsigned and a signed word.
-/

namespace DalvikPrepass.Leb128

/-- The number in the byte at `offset + index`, zero behind the end of the
data. -/
def byteAt (data : Bytes) (offset index : Nat) : Nat :=
  (data.getD (offset + index) 0).toNat

/-- From `offset` on there are `size` bytes, at most five, of which the last one
and no other is below `0x80`. -/
structure Spans (data : Bytes) (offset size : Nat) : Prop where
  size_pos : 1 ≤ size
  size_le : size ≤ 5
  inside : offset + size ≤ data.length
  ends : ∀ index < size, (byteAt data offset index < 0x80 ↔ index + 1 = size)

/-- The digits of `size` bytes as a number in base 128. -/
def digitTotal (data : Bytes) (offset size : Nat) : Nat :=
  ∑ index ∈ Finset.range size, byteAt data offset index % 128 * 128 ^ index

/-- How much less than its digits a signed value is: bit 6 of the last byte is
its sign. -/
def signWeight (data : Bytes) (offset size : Nat) : Nat :=
  if (byteAt data offset (size - 1)).testBit 6 then 2 ^ (7 * size) else 0

/-- How reading an unsigned value and reading a signed one at this offset should
end. -/
inductive ValueVerdict (data : Bytes) (offset : Nat) :
    Except ReadError (UInt32 × Cursor) → Except ReadError (Int32 × Cursor) → Prop
  | missing (hnone : ∀ size, ¬Spans data offset size) :
      ValueVerdict data offset (.error (.invalidLeb128 offset)) (.error (.invalidLeb128 offset))
  | found {size : Nat} {unsigned : UInt32} {signed : Int32}
      (hleast : IsLeast {size | Spans data offset size} size)
      (hunsigned : unsigned.toNat = digitTotal data offset size % 2 ^ 32)
      (hsigned : ∀ value : Int, signed.toInt = value ↔ -2 ^ 31 ≤ value ∧ value < 2 ^ 31 ∧
        value ≡ digitTotal data offset size - signWeight data offset size [ZMOD 2 ^ 32]) :
      ValueVerdict data offset (.ok (unsigned, .ofOffset data (offset + size)))
        (.ok (signed, .ofOffset data (offset + size)))

/-! ## Where a value ends -/

theorem byteAt_zero (byte : UInt8) (bytes : Bytes) : byteAt (byte :: bytes) 0 0 = byte.toNat := rfl

theorem byteAt_succ (byte : UInt8) (bytes : Bytes) (index : Nat) :
    byteAt (byte :: bytes) 0 (index + 1) = byteAt bytes 0 index := by
  simp [byteAt]

/-- A form is known by the top bits of its bytes. -/
theorem isForm_iff {budget : Nat} {form : Bytes} :
    IsForm budget form ↔ form ≠ [] ∧ form.length ≤ budget ∧
      ∀ index < form.length, (byteAt form 0 index < 0x80 ↔ index + 1 = form.length) := by
  constructor
  · intro hform
    refine ⟨hform.ne_nil, hform.length_le, ?_⟩
    induction hform with
    | last hlast =>
        intro index hindex
        obtain rfl : index = 0 := Nat.lt_one_iff.mp hindex
        exact iff_of_true hlast rfl
    | @more budget byte rest hmore hrest ih =>
        intro index hindex
        cases index with
        | zero =>
            have hlength := List.length_pos_iff.mpr hrest.ne_nil
            refine iff_of_false (Nat.not_lt.mpr hmore) ?_
            rw [List.length_cons]
            omega
        | succ index =>
            rw [byteAt_succ, ih index (Nat.lt_of_succ_lt_succ hindex), List.length_cons,
              Nat.add_right_cancel_iff]
  · rintro ⟨hform, hlength, hends⟩
    induction form generalizing budget with
    | nil => exact absurd rfl hform
    | cons byte rest ih =>
        obtain ⟨budget, rfl⟩ : ∃ smaller, budget = smaller + 1 :=
          Nat.exists_eq_add_one.mpr (Nat.lt_of_lt_of_le (Nat.succ_pos _) hlength)
        have hfirst := hends 0 (Nat.succ_pos _)
        by_cases hrest : rest = []
        · subst hrest
          exact .last (hfirst.mpr rfl)
        · have hpositive := List.length_pos_iff.mpr hrest
          apply IsForm.more
          · refine Nat.not_lt.mp fun hlast => ?_
            have hone := hfirst.mp hlast
            rw [List.length_cons] at hone
            omega
          · apply ih hrest (Nat.le_of_succ_le_succ hlength)
            intro index hindex
            have hnext := hends (index + 1) (Nat.succ_lt_succ hindex)
            rwa [byteAt_succ, List.length_cons, Nat.add_right_cancel_iff] at hnext

theorem byteAt_of_drop {data form rest : Bytes} {offset index : Nat}
    (hdata : data.drop offset = form ++ rest) (hindex : index < form.length) :
    byteAt data offset index = byteAt form 0 index := by
  have hbyte : data[offset + index]? = form[index]? := by
    rw [← List.getElem?_drop, hdata, List.getElem?_append_left hindex]
  rw [byteAt, byteAt, List.getD_eq_getElem?_getD, List.getD_eq_getElem?_getD, hbyte, Nat.zero_add]

/-- What spans a value in the data is a form of it. -/
theorem spans_iff_isForm {data form rest : Bytes} {offset : Nat}
    (hdata : data.drop offset = form ++ rest) :
    Spans data offset form.length ↔ IsForm 5 form := by
  rw [isForm_iff]
  constructor
  · intro hspans
    refine ⟨List.length_pos_iff.mp hspans.size_pos, hspans.size_le, ?_⟩
    intro index hindex
    rw [← byteAt_of_drop hdata hindex]
    exact hspans.ends index hindex
  · intro ⟨hform, hlength, hends⟩
    have hpositive := List.length_pos_iff.mpr hform
    have hsizes := congrArg List.length hdata
    rw [List.length_drop, List.length_append] at hsizes
    refine ⟨hpositive, hlength, by omega, ?_⟩
    intro index hindex
    rw [byteAt_of_drop hdata hindex]
    exact hends index hindex

theorem Spans.exists_form {data : Bytes} {offset size : Nat} (hspans : Spans data offset size) :
    ∃ form rest, data.drop offset = form ++ rest ∧ IsForm 5 form ∧ form.length = size := by
  have hdata : data.drop offset = (data.drop offset).take size ++ (data.drop offset).drop size :=
    (List.take_append_drop size _).symm
  have hlength : ((data.drop offset).take size).length = size := by
    have hinside := hspans.inside
    rw [List.length_take, List.length_drop]
    omega
  refine ⟨_, _, hdata, (spans_iff_isForm hdata).mp ?_, hlength⟩
  rwa [hlength]

theorem Spans.le {data : Bytes} {offset size other : Nat} (hspans : Spans data offset size)
    (hother : Spans data offset other) : size ≤ other := by
  by_contra hshorter
  have hpositive := hother.size_pos
  have hlast : byteAt data offset (other - 1) < 0x80 := (hother.ends _ (by omega)).mpr (by omega)
  have hend := (hspans.ends (other - 1) (by omega)).mp hlast
  omega

/-! ## What it is worth -/

theorem digitSum_eq (form : Bytes) : digitSum form = digitTotal form 0 form.length := by
  induction form with
  | nil => rfl
  | cons byte bytes ih =>
      rw [digitSum, digitTotal, List.length_cons, Finset.sum_range_succ', byteAt_zero, pow_zero,
        mul_one, Nat.add_comm, ih, digitTotal, Finset.mul_sum]
      congr 1
      apply Finset.sum_congr rfl
      intro index _
      rw [byteAt_succ, pow_succ]
      ring

/-- The sign of the digits is in the last byte. -/
theorem testBit_digitSum {form : Bytes} (hform : form ≠ []) :
    (digitSum form).testBit (7 * form.length - 1) =
      (byteAt form 0 (form.length - 1)).testBit 6 := by
  induction form with
  | nil => exact absurd rfl hform
  | cons byte bytes ih =>
      have hbyte := Nat.mod_lt byte.toNat (by norm_num : 128 > 0)
      by_cases hrest : bytes = []
      · subst hrest
        rw [digitSum, digitSum, List.length_singleton, byteAt_zero,
          show (128 : Nat) = 2 ^ 7 from rfl, Nat.mul_zero, Nat.add_zero, Nat.testBit_mod_two_pow]
        rfl
      · have hlength := List.length_pos_iff.mpr hrest
        rw [List.length_cons, show bytes.length + 1 - 1 = bytes.length - 1 + 1 by omega,
          byteAt_succ, ← ih hrest, digitSum, Nat.add_comm, show (128 : Nat) = 2 ^ 7 from rfl,
          Nat.testBit_two_pow_mul_add _ hbyte, if_neg (by omega)]
        congr 1

theorem digitTotal_of_drop {data form rest : Bytes} {offset : Nat}
    (hdata : data.drop offset = form ++ rest) :
    digitTotal data offset form.length = digitSum form := by
  rw [digitSum_eq, digitTotal, digitTotal]
  apply Finset.sum_congr rfl
  intro index hindex
  rw [byteAt_of_drop hdata (Finset.mem_range.mp hindex)]

/-- The sign of the last byte takes off its weight. -/
theorem signedDigits_of_drop {data form rest : Bytes} {offset : Nat}
    (hdata : data.drop offset = form ++ rest) (hform : form ≠ []) :
    signedDigits form =
      digitTotal data offset form.length - signWeight data offset form.length := by
  have hlast : form.length - 1 < form.length :=
    Nat.sub_lt (List.length_pos_iff.mpr hform) Nat.one_pos
  rw [signedDigits_eq hform, testBit_digitSum hform, digitTotal_of_drop hdata, signWeight,
    byteAt_of_drop hdata hlast]
  split
  · push_cast
    rfl
  · rw [Nat.cast_zero, sub_zero]

/-- The signed word with a given residue. -/
theorem toInt_ofInt_eq_iff {number value : Int} :
    (Int32.ofInt number).toInt = value ↔
      -2 ^ 31 ≤ value ∧ value < 2 ^ 31 ∧ value ≡ number [ZMOD 2 ^ 32] := by
  rw [Int32.toInt_ofInt, Int.ModEq, Int.bmod_def]
  simp only [Int32.size]
  split <;> omega

/-! ## The readers -/

/-- The readers keep to the verdict. -/
theorem valueVerdict_read (data : Bytes) (offset : Nat) :
    ValueVerdict data offset (Cursor.ofOffset data offset).readUnsigned
      (Cursor.ofOffset data offset).readSigned := by
  rcases noValue_or_form (data.drop offset) with hnone | ⟨form, rest, hdata, hform⟩
  · have hmissing : NoValue (Cursor.ofOffset data offset).rest := hnone
    rw [Cursor.readUnsigned_of_noValue hmissing, Cursor.readSigned_of_noValue hmissing]
    apply ValueVerdict.missing
    intro size hspans
    obtain ⟨form, rest, hdata, hform, -⟩ := hspans.exists_form
    exact hnone form ⟨rest, hdata.symm⟩ hform
  · have hpasses := Cursor.passes_ofOffset hdata
    have hspans := (spans_iff_isForm hdata).mpr hform
    have hsigned : EncodesSigned form (Int32.ofInt (signedDigits form)) :=
      ⟨hform, (ofInt_signedSum hform.ne_nil hform.length_le).symm⟩
    rw [Cursor.readUnsigned_eq_ok_iff.mpr ⟨form, ⟨hform, UInt32.toNat_ofNat'⟩, hpasses⟩,
      Cursor.readSigned_eq_ok_iff.mpr ⟨form, hsigned, hpasses⟩]
    refine .found ⟨hspans, fun _ hother => hspans.le hother⟩ ?_ ?_
    · rw [digitTotal_of_drop hdata]
      exact UInt32.toNat_ofNat'
    · intro value
      rw [← signedDigits_of_drop hdata hform.ne_nil]
      exact toInt_ofInt_eq_iff

/-- There is one verdict only, so whatever keeps to it is what is read. -/
theorem ValueVerdict.unique {data : Bytes} {offset : Nat}
    {unsigned otherUnsigned : Except ReadError (UInt32 × Cursor)}
    {signed otherSigned : Except ReadError (Int32 × Cursor)}
    (hverdict : ValueVerdict data offset unsigned signed)
    (hother : ValueVerdict data offset otherUnsigned otherSigned) :
    unsigned = otherUnsigned ∧ signed = otherSigned := by
  cases hverdict with
  | missing hnone =>
      cases hother with
      | missing => exact ⟨rfl, rfl⟩
      | found hleast => exact absurd hleast.1 (hnone _)
  | found hleast hunsigned hsigned =>
      cases hother with
      | missing hnone => exact absurd hleast.1 (hnone _)
      | found hleastOther hunsignedOther hsignedOther =>
          obtain rfl := hleast.unique hleastOther
          obtain rfl := UInt32.toNat_inj.mp (hunsigned.trans hunsignedOther.symm)
          obtain rfl := Int32.toInt_inj.mp ((hsigned _).mpr ((hsignedOther _).mp rfl))
          exact ⟨rfl, rfl⟩

/-- Reading a value at any offset of any data ends as the bytes there say, for
both kinds of values. -/
theorem read_eq_iff_valueVerdict {data : Bytes} {offset : Nat}
    {unsigned : Except ReadError (UInt32 × Cursor)} {signed : Except ReadError (Int32 × Cursor)} :
    (Cursor.ofOffset data offset).readUnsigned = unsigned ∧
        (Cursor.ofOffset data offset).readSigned = signed ↔
      ValueVerdict data offset unsigned signed := by
  constructor
  · rintro ⟨rfl, rfl⟩
    exact valueVerdict_read data offset
  · intro hverdict
    exact (valueVerdict_read data offset).unique hverdict

end DalvikPrepass.Leb128
