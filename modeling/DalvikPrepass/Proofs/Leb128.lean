import Mathlib
import DalvikPrepass.Leb128
import DalvikPrepass.Proofs.ByteLayout

/-!
# Forms of variable-length integers

Which bytes are a variable-length integer and what they are worth, said without
the decoders: their low seven bits are digits in base 128, and the value is
their sum modulo `2 ^ 32`, with a sign if there is one.  The decoders accept
exactly these forms at the front of the data, and the encoders write one of
them.
-/

namespace DalvikPrepass.Leb128

/-- At least one byte and at most `budget` of them, where all but the last have
their top bit set and the last does not. -/
inductive IsForm : (budget : Nat) → Bytes → Prop
  | last {budget : Nat} {byte : UInt8} (hlast : byte < 0x80) : IsForm (budget + 1) [byte]
  | more {budget : Nat} {byte : UInt8} {rest : Bytes} (hmore : 0x80 ≤ byte)
      (hrest : IsForm budget rest) : IsForm (budget + 1) (byte :: rest)

/-- The sum of the low seven bits of each byte as digits in base 128, lowest
digit first. -/
def digitSum : Bytes → Nat
  | [] => 0
  | byte :: bytes => byte.toNat % 128 + 128 * digitSum bytes

/-- The digits of fewer than five bytes are a number in two's complement, whose
sign is its highest bit.  Five bytes fill a word without any extension. -/
def signedSum (bytes : Bytes) : Int :=
  if bytes.length < 5 ∧ (digitSum bytes).testBit (7 * bytes.length - 1) then
    digitSum bytes - 2 ^ (7 * bytes.length)
  else
    digitSum bytes

/-- The bytes are a form of this unsigned value. -/
def EncodesUnsigned (bytes : Bytes) (value : UInt32) : Prop :=
  IsForm 5 bytes ∧ value.toNat = digitSum bytes % 2 ^ 32

/-- The bytes are a form of this signed value; `Int32.ofInt` reduces modulo
`2 ^ 32`. -/
def EncodesSigned (bytes : Bytes) (value : Int32) : Prop :=
  IsForm 5 bytes ∧ value = Int32.ofInt (signedSum bytes)

/-! ## Forms and what they are worth -/

theorem IsForm.ne_nil {budget : Nat} {bytes : Bytes} (hform : IsForm budget bytes) :
    bytes ≠ [] := by
  cases hform <;> simp

theorem IsForm.length_le {budget : Nat} {bytes : Bytes} (hform : IsForm budget bytes) :
    bytes.length ≤ budget := by
  induction hform with
  | last => simp
  | more _ _ ih =>
      rw [List.length_cons]
      omega

/-- What the decoders make of a form whose last byte is worth `last`. -/
def worth (last : UInt8 → UInt32) : Bytes → UInt32
  | [] => 0
  | [byte] => last byte
  | byte :: bytes => digit byte + 0x80 * worth last bytes

theorem worth_cons (last : UInt8 → UInt32) (byte : UInt8) {bytes : Bytes} (hbytes : bytes ≠ []) :
    worth last (byte :: bytes) = digit byte + 0x80 * worth last bytes := by
  cases bytes with
  | nil => exact absurd rfl hbytes
  | cons next bytes => rfl

/-- A form is read as what it is worth, whatever stands behind it. -/
theorem decodeWith_append {budget : Nat} {form : Bytes} (last : UInt8 → UInt32) (rest : Bytes)
    (hform : IsForm budget form) :
    decodeWith last budget (form ++ rest) = some (worth last form, form.length) := by
  induction hform with
  | last hlast => simp [decodeWith, hlast, worth]
  | @more budget byte bytes hmore hrest ih =>
      have hnot : ¬byte < 0x80 := UInt8.not_lt.mpr hmore
      rw [List.cons_append, decodeWith, if_neg hnot, ih, Option.map_some,
        worth_cons last byte hrest.ne_nil, List.length_cons]

/-- Whatever is read starts with a form. -/
theorem exists_form_of_decodeWith {last : UInt8 → UInt32} {budget : Nat} {bytes : Bytes}
    {result : UInt32 × Nat} (hdecode : decodeWith last budget bytes = some result) :
    ∃ form rest, bytes = form ++ rest ∧ IsForm budget form := by
  induction budget generalizing bytes result with
  | zero => simp [decodeWith] at hdecode
  | succ budget ih =>
      cases bytes with
      | nil => simp [decodeWith] at hdecode
      | cons byte bytes =>
          rw [decodeWith] at hdecode
          by_cases hlast : byte < 0x80
          · exact ⟨[byte], bytes, rfl, .last hlast⟩
          · rw [if_neg hlast] at hdecode
            obtain ⟨_, hrest, _⟩ := Option.map_eq_some_iff.mp hdecode
            obtain ⟨form, rest, rfl, hform⟩ := ih hrest
            exact ⟨byte :: form, rest, rfl, .more (UInt8.not_lt.mp hlast) hform⟩

/-- Both decoders read just the forms; they differ in what the last byte is
worth. -/
theorem decodeWith_eq_some_iff {last : UInt8 → UInt32} {budget : Nat} {bytes : Bytes}
    {value : UInt32} {size : Nat} :
    decodeWith last budget bytes = some (value, size) ↔
      ∃ form rest, bytes = form ++ rest ∧ IsForm budget form ∧
        worth last form = value ∧ form.length = size := by
  constructor
  · intro hdecode
    obtain ⟨form, rest, rfl, hform⟩ := exists_form_of_decodeWith hdecode
    rw [decodeWith_append last rest hform] at hdecode
    simp only [Option.some.injEq, Prod.mk.injEq] at hdecode
    exact ⟨form, rest, rfl, hform, hdecode⟩
  · rintro ⟨form, rest, rfl, hform, rfl, rfl⟩
    exact decodeWith_append last rest hform

theorem toNat_digit (byte : UInt8) : (digit byte).toNat = byte.toNat % 128 := by
  simp [digit]

theorem digit_eq_ofNat (byte : UInt8) : digit byte = UInt32.ofNat (byte.toNat % 128) := by
  rw [← toNat_digit, UInt32.ofNat_toNat]

/-- The unsigned decoder takes the digits as a number modulo 2 ^ 32. -/
theorem worth_digit (bytes : Bytes) : worth digit bytes = UInt32.ofNat (digitSum bytes) := by
  induction bytes with
  | nil => rfl
  | cons byte bytes ih =>
      by_cases hbytes : bytes = []
      · subst hbytes
        simp [worth, digitSum, digit_eq_ofNat]
      · rw [worth_cons _ _ hbytes, ih, digit_eq_ofNat, digitSum, UInt32.ofNat_add,
          UInt32.ofNat_mul]
        rfl

/-- The digits with the last one between `-64` and `63`. -/
def signedDigits : Bytes → Int
  | [] => 0
  | [byte] => if byte.toNat % 128 < 64 then byte.toNat % 128 else byte.toNat % 128 - 128
  | byte :: bytes => byte.toNat % 128 + 128 * signedDigits bytes

/-- The sign comes with the last byte, so the ones before it add plain digits. -/
theorem signedDigits_cons (byte : UInt8) {bytes : Bytes} (hbytes : bytes ≠ []) :
    signedDigits (byte :: bytes) = byte.toNat % 128 + 128 * signedDigits bytes := by
  cases bytes with
  | nil => exact absurd rfl hbytes
  | cons next bytes => rfl

/-- The sign takes `128 ^ k` off the digits of `k` bytes, if the highest of
their bits is set. -/
theorem signedDigits_eq {bytes : Bytes} (hbytes : bytes ≠ []) :
    signedDigits bytes =
      if (digitSum bytes).testBit (7 * bytes.length - 1) then
        (digitSum bytes : Int) - 2 ^ (7 * bytes.length)
      else
        digitSum bytes := by
  induction bytes with
  | nil => exact absurd rfl hbytes
  | cons byte bytes ih =>
      have hbyte := Nat.mod_lt byte.toNat (by norm_num : 128 > 0)
      by_cases hrest : bytes = []
      · subst hrest
        have hbit : (byte.toNat % 128).testBit 6 = decide (64 ≤ byte.toNat % 128) := by
          rw [Nat.testBit_eq_decide_div_mod_eq]
          exact decide_eq_decide.mpr (by omega)
        simp only [signedDigits, digitSum, List.length_singleton, Nat.mul_zero, Nat.add_zero,
          Nat.mul_one, Nat.reduceSub, hbit, decide_eq_true_eq]
        by_cases hsmall : byte.toNat % 128 < 64
        · rw [if_pos hsmall, if_neg (by omega)]
          norm_cast
        · rw [if_neg hsmall, if_pos (by omega)]
          norm_cast
      · have hlength : 0 < bytes.length := List.length_pos_iff.mpr hrest
        have hbit : (byte.toNat % 128 + 128 * digitSum bytes).testBit (7 * (bytes.length + 1) - 1) =
            (digitSum bytes).testBit (7 * bytes.length - 1) := by
          rw [Nat.add_comm (byte.toNat % 128), show (128 : Nat) = 2 ^ 7 from rfl,
            Nat.testBit_two_pow_mul_add _ hbyte, if_neg (by omega)]
          congr 1
        have hpower : (2 : Int) ^ (7 * (bytes.length + 1)) = 128 * 2 ^ (7 * bytes.length) := by
          rw [Nat.mul_add, pow_add]
          ring
        rw [signedDigits_cons byte hrest, ih hrest, digitSum, List.length_cons, hbit, hpower]
        split <;> push_cast <;> ring

/-- On at most five bytes the sign of five bytes makes no difference modulo
`2 ^ 32`. -/
theorem ofInt_signedSum {bytes : Bytes} (hbytes : bytes ≠ []) (hlength : bytes.length ≤ 5) :
    Int32.ofInt (signedSum bytes) = Int32.ofInt (signedDigits bytes) := by
  rw [signedDigits_eq hbytes, signedSum]
  by_cases hfive : bytes.length < 5
  · simp only [hfive, true_and]
  · have hlengthFive : bytes.length = 5 := by omega
    simp only [hfive, false_and, if_false]
    split
    · rw [hlengthFive, Int32.ofInt_sub,
        show Int32.ofInt (2 ^ (7 * 5)) = 0 from by decide, Int32.sub_zero]
    · rfl

theorem toInt32_signedDigit (byte : UInt8) :
    (signedDigit byte).toInt32 = Int32.ofInt (signedDigits [byte]) := by
  have hdigit : (digit byte).toInt32 = Int32.ofInt (byte.toNat % 128) := by
    rw [digit_eq_ofNat, UInt32.toInt32_ofNat', ← Int32.ofInt_eq_ofNat]
    norm_cast
  have hsmall : digit byte < 0x40 ↔ byte.toNat % 128 < 64 := by
    rw [UInt32.lt_iff_toNat_lt, toNat_digit]
    rfl
  rw [signedDigit, signedDigits]
  by_cases hlow : byte.toNat % 128 < 64
  · rw [if_pos (hsmall.mpr hlow), if_pos hlow, hdigit]
  · rw [if_neg (hsmall.not.mpr hlow), if_neg hlow, Int32.ofInt_sub, UInt32.toInt32_sub, hdigit]
    rfl

/-- The signed decoder extends the sign of the last byte, modulo 2 ^ 32. -/
theorem worth_signedDigit {bytes : Bytes} (hbytes : bytes ≠ []) :
    (worth signedDigit bytes).toInt32 = Int32.ofInt (signedDigits bytes) := by
  induction bytes with
  | nil => exact absurd rfl hbytes
  | cons byte bytes ih =>
      by_cases hrest : bytes = []
      · subst hrest
        exact toInt32_signedDigit byte
      · rw [worth_cons _ _ hrest, signedDigits_cons _ hrest, UInt32.toInt32_add,
          UInt32.toInt32_mul, ih hrest, digit_eq_ofNat, UInt32.toInt32_ofNat',
          ← Int32.ofInt_eq_ofNat, Int32.ofInt_add, Int32.ofInt_mul]
        norm_cast

/-! ## The decoders -/

/-- What the unsigned decoder reads, without reference to how it works. -/
theorem decodeUnsigned_eq_some_iff {bytes : Bytes} {value : UInt32} {size : Nat} :
    decodeUnsigned bytes = some (value, size) ↔
      ∃ form rest, bytes = form ++ rest ∧ EncodesUnsigned form value ∧ form.length = size := by
  rw [decodeUnsigned, decodeWith_eq_some_iff]
  refine exists_congr fun form => exists_congr fun rest => ?_
  rw [EncodesUnsigned, and_assoc, worth_digit, ← UInt32.toNat_inj, UInt32.toNat_ofNat',
    eq_comm (a := value.toNat)]
  rfl

/-- What the signed decoder reads, without reference to how it works. -/
theorem decodeSigned_eq_some_iff {bytes : Bytes} {value : Int32} {size : Nat} :
    decodeSigned bytes = some (value, size) ↔
      ∃ form rest, bytes = form ++ rest ∧ EncodesSigned form value ∧ form.length = size := by
  have hworth : ∀ {form : Bytes}, IsForm 5 form →
      Int32.ofInt (signedSum form) = (worth signedDigit form).toInt32 := fun hform => by
    rw [ofInt_signedSum hform.ne_nil hform.length_le, worth_signedDigit hform.ne_nil]
  simp only [decodeSigned, Option.map_eq_some_iff, Prod.exists, Prod.mk.injEq,
    decodeWith_eq_some_iff]
  constructor
  · rintro ⟨word, _, ⟨form, rest, hbytes, hform, rfl, rfl⟩, rfl, rfl⟩
    exact ⟨form, rest, hbytes, ⟨hform, (hworth hform).symm⟩, rfl⟩
  · rintro ⟨form, rest, hbytes, ⟨hform, rfl⟩, rfl⟩
    exact ⟨_, _, ⟨form, rest, hbytes, hform, rfl, rfl⟩, (hworth hform).symm, rfl⟩

/-! ## The encoders -/

theorem digitSum_encodeNat (value : Nat) : digitSum (encodeNat value) = value := by
  induction value using encodeNat.induct with
  | case1 value hsmall =>
      rw [encodeNat, if_pos hsmall]
      simp [digitSum]
      omega
  | case2 value hlarge ih =>
      rw [encodeNat, if_neg hlarge, digitSum, ih]
      simp
      omega

/-- A number with that many digits fits into the budget. -/
theorem isForm_encodeNat {budget value : Nat} (hvalue : value < 128 ^ (budget + 1)) :
    IsForm (budget + 1) (encodeNat value) := by
  induction budget generalizing value with
  | zero =>
      rw [encodeNat, if_pos (by simpa using hvalue)]
      refine .last (UInt8.lt_iff_toNat_lt.mpr ?_)
      simp
      omega
  | succ budget ih =>
      rw [encodeNat]
      split
      · refine .last (UInt8.lt_iff_toNat_lt.mpr ?_)
        simp
        omega
      · refine .more (UInt8.le_iff_toNat_le.mpr ?_) (ih ?_)
        · simp
          omega
        · rw [pow_succ] at hvalue
          omega

/-- The unsigned encoder writes a form of its value. -/
theorem encodesUnsigned_encodeUnsigned (value : UInt32) :
    EncodesUnsigned (encodeUnsigned value) value := by
  have hvalue := value.toNat_lt
  refine ⟨isForm_encodeNat (by omega), ?_⟩
  rw [encodeUnsigned, digitSum_encodeNat, Nat.mod_eq_of_lt hvalue]

theorem encodeInt_ne_nil (value : Int) : encodeInt value ≠ [] := by
  rw [encodeInt]
  split <;> simp

theorem signedDigits_encodeInt (value : Int) : signedDigits (encodeInt value) = value := by
  induction value using encodeInt.induct with
  | case1 value hsmall =>
      rw [encodeInt, if_pos hsmall]
      simp [signedDigits]
      omega
  | case2 value hlarge ih =>
      rw [encodeInt, if_neg hlarge, signedDigits_cons _ (encodeInt_ne_nil _), ih]
      simp
      omega

/-- A signed number needs one bit more than its digits, for the sign. -/
theorem isForm_encodeInt {budget : Nat} {value : Int} (hlow : -(64 * 128 ^ budget) ≤ value)
    (hhigh : value < 64 * 128 ^ budget) : IsForm (budget + 1) (encodeInt value) := by
  induction budget generalizing value with
  | zero =>
      rw [encodeInt, if_pos (by omega)]
      refine .last (UInt8.lt_iff_toNat_lt.mpr ?_)
      simp
      omega
  | succ budget ih =>
      rw [encodeInt]
      split
      · refine .last (UInt8.lt_iff_toNat_lt.mpr ?_)
        simp
        omega
      · rw [pow_succ] at hlow hhigh
        refine .more (UInt8.le_iff_toNat_le.mpr ?_) (ih ?_ ?_)
        · simp
          omega
        · omega
        · omega

/-- The signed encoder writes a form of its value. -/
theorem encodesSigned_encodeSigned (value : Int32) :
    EncodesSigned (encodeSigned value) value := by
  have hlow := value.le_toInt
  have hhigh := value.toInt_lt
  have hform : IsForm 5 (encodeSigned value) := isForm_encodeInt (by omega) (by omega)
  refine ⟨hform, ?_⟩
  rw [ofInt_signedSum hform.ne_nil hform.length_le, encodeSigned, signedDigits_encodeInt,
    Int32.ofInt_toInt]

end DalvikPrepass.Leb128
