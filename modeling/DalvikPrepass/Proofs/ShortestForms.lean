import Mathlib
import DalvikPrepass.Proofs.HandlerGrammar

/-!
# The shortest forms of values

A value has many forms, since its digits can be followed by more digits that
say nothing.  The encoders write the shortest of them.  Below five bytes no
other form is as short; in a fifth byte there are bits that no value has, so
there the shortest form need not be the only one.
-/

namespace DalvikPrepass.Leb128

/-- The code is no longer than the form and, unless it takes all five bytes,
different from it only if it is shorter. -/
def IsShortest (code form : Bytes) : Prop :=
  code.length ≤ form.length ∧ (code.length = form.length → form.length < 5 → code = form)

/-- Whatever lies around it, a value is read back from its code, and every other
way to write it is longer or takes all five bytes. -/
structure ShortestCode {α : Type} (encode : α → Bytes)
    (read : Cursor → Except ReadError (α × Cursor)) : Prop where
  length_pos : ∀ value, 1 ≤ (encode value).length
  length_le : ∀ value, (encode value).length ≤ 5
  read_encode : ∀ (before after : Bytes) (value : α),
    read (.ofOffset (before ++ encode value ++ after) before.length) =
      .ok (value, .ofOffset (before ++ encode value ++ after)
        (before.length + (encode value).length))
  position_le : ∀ (data : Bytes) (offset : Nat) (value : α) (after : Cursor),
    read (.ofOffset data offset) = .ok (value, after) →
      offset + (encode value).length ≤ after.position
  unique : ∀ (data : Bytes) (offset : Nat) (value : α) (after : Cursor),
    read (.ofOffset data offset) = .ok (value, after) →
      after.position = offset + (encode value).length → (encode value).length < 5 →
        encode value <+: data.drop offset

theorem IsShortest.of_lt_or_eq {code form : Bytes}
    (hcode : code.length < form.length ∨ code = form) : IsShortest code form := by
  rcases hcode with hshorter | rfl
  · exact ⟨hshorter.le, fun hequal => absurd hequal hshorter.ne⟩
  · exact ⟨le_rfl, fun _ _ => rfl⟩

theorem IsShortest.of_five {code form : Bytes} (hcode : code.length ≤ 5)
    (hform : form.length = 5) : IsShortest code form :=
  ⟨hform ▸ hcode, fun _ hless => absurd hform hless.ne⟩

/-! ## Unsigned values -/

theorem digitSum_lt (bytes : Bytes) : digitSum bytes < 128 ^ bytes.length := by
  induction bytes with
  | nil => simp [digitSum]
  | cons byte bytes ih =>
      rw [digitSum, List.length_cons, pow_succ]
      omega

/-- The digits of a form are written in fewer bytes or in those of the form. -/
theorem encodeNat_digitSum {budget : Nat} {form : Bytes} (hform : IsForm budget form) :
    (encodeNat (digitSum form)).length < form.length ∨ encodeNat (digitSum form) = form := by
  induction hform with
  | @last budget byte hlast =>
      have hbyte : byte.toNat < 128 := hlast
      right
      rw [digitSum, digitSum, encodeNat, if_pos (by omega), Nat.mul_zero, Nat.add_zero,
        Nat.mod_eq_of_lt hbyte, Nat.toUInt8_eq, UInt8.ofNat_toNat]
  | @more budget byte rest hmore hrest ih =>
      have hbyte : 128 ≤ byte.toNat := hmore
      have hlarge := byte.toNat_lt
      rw [digitSum, encodeNat]
      split
      · left
        simpa using List.length_pos_iff.mpr hrest.ne_nil
      · have hhigh : (byte.toNat % 128 + 128 * digitSum rest) / 128 = digitSum rest := by omega
        have hlow : (byte.toNat % 128 + 128 * digitSum rest) % 128 + 128 = byte.toNat := by omega
        rw [hhigh, hlow, Nat.toUInt8_eq, UInt8.ofNat_toNat, List.length_cons, List.length_cons]
        rcases ih with hshorter | hequal
        · exact .inl (Nat.succ_lt_succ hshorter)
        · exact .inr (by rw [hequal])

/-- No other form of an unsigned value is as short. -/
theorem isShortest_encodeUnsigned {form : Bytes} {value : UInt32}
    (hform : EncodesUnsigned form value) : IsShortest (encodeUnsigned value) form := by
  obtain ⟨hshape, hvalue⟩ := hform
  by_cases hfive : form.length = 5
  · exact .of_five (encodesUnsigned_encodeUnsigned value).1.length_le hfive
  · -- Four digits fit a word, so nothing of their sum is lost.
    have hlength := hshape.length_le
    have hsmall : digitSum form < 2 ^ 32 :=
      calc digitSum form < 128 ^ form.length := digitSum_lt form
        _ ≤ 128 ^ 4 := Nat.pow_le_pow_right (by norm_num) (by omega)
        _ ≤ 2 ^ 32 := by norm_num
    rw [encodeUnsigned, hvalue, Nat.mod_eq_of_lt hsmall]
    exact .of_lt_or_eq (encodeNat_digitSum hshape)

/-! ## Signed values -/

theorem signedDigits_bounds (byte : UInt8) (bytes : Bytes) :
    -(64 * 128 ^ bytes.length) ≤ signedDigits (byte :: bytes) ∧
      signedDigits (byte :: bytes) < 64 * 128 ^ bytes.length := by
  induction bytes generalizing byte with
  | nil =>
      rw [signedDigits]
      split <;> simp <;> omega
  | cons next bytes ih =>
      obtain ⟨hlow, hhigh⟩ := ih next
      rw [signedDigits_cons byte (List.cons_ne_nil next bytes), List.length_cons, pow_succ]
      constructor <;> omega

/-- A signed form is the encoded one or is longer. -/
theorem encodeInt_signedDigits {budget : Nat} {form : Bytes} (hform : IsForm budget form) :
    (encodeInt (signedDigits form)).length < form.length ∨
      encodeInt (signedDigits form) = form := by
  induction hform with
  | @last budget byte hlast =>
      have hbyte : byte.toNat < 128 := hlast
      have hdigit : (signedDigits [byte] % 128).toNat = byte.toNat := by
        rw [signedDigits]
        split <;> omega
      have hsmall : -64 ≤ signedDigits [byte] ∧ signedDigits [byte] < 64 := by
        simpa using signedDigits_bounds byte []
      right
      rw [encodeInt, if_pos hsmall, hdigit, Nat.toUInt8_eq, UInt8.ofNat_toNat]
  | @more budget byte rest hmore hrest ih =>
      have hbyte : 128 ≤ byte.toNat := hmore
      have hlarge := byte.toNat_lt
      rw [signedDigits_cons byte hrest.ne_nil, encodeInt]
      split
      · left
        simpa using List.length_pos_iff.mpr hrest.ne_nil
      · have hhigh : ((byte.toNat : Int) % 128 + 128 * signedDigits rest) / 128 =
            signedDigits rest := by omega
        have hlow : (((byte.toNat : Int) % 128 + 128 * signedDigits rest) % 128).toNat + 128 =
            byte.toNat := by omega
        rw [hhigh, hlow, Nat.toUInt8_eq, UInt8.ofNat_toNat, List.length_cons, List.length_cons]
        rcases ih with hshorter | hequal
        · exact .inl (Nat.succ_lt_succ hshorter)
        · exact .inr (by rw [hequal])

/-- No other form of a signed value is as short. -/
theorem isShortest_encodeSigned {form : Bytes} {value : Int32}
    (hform : EncodesSigned form value) : IsShortest (encodeSigned value) form := by
  obtain ⟨hshape, rfl⟩ := hform
  by_cases hfive : form.length = 5
  · exact .of_five (encodesSigned_encodeSigned _).1.length_le hfive
  · have hlength := hshape.length_le
    rw [ofInt_signedSum hshape.ne_nil hlength]
    obtain ⟨byte, bytes, rfl⟩ := List.exists_cons_of_ne_nil hshape.ne_nil
    have hpower : (128 : Int) ^ bytes.length ≤ 128 ^ 3 :=
      pow_le_pow_right₀ (by norm_num) (by rw [List.length_cons] at hlength hfive; omega)
    obtain ⟨hlow, hhigh⟩ := signedDigits_bounds byte bytes
    rw [encodeSigned, Int32.toInt_ofInt_of_le (by omega) (by omega)]
    exact .of_lt_or_eq (encodeInt_signedDigits hshape)

/-! ## Readers of values -/

/-- A reader that gets from a form what it encodes reads the code back, and the
code is the shortest form. -/
theorem ShortestCode.of_encodes {α : Type} {encode : α → Bytes}
    {read : Cursor → Except ReadError (α × Cursor)} {Encodes : Bytes → α → Prop}
    (hread : ∀ {cursor after : Cursor} {value : α}, read cursor = .ok (value, after) ↔
      ∃ bytes, Encodes bytes value ∧ cursor.Passes bytes after)
    (hform : ∀ {bytes : Bytes} {value : α}, Encodes bytes value → IsForm 5 bytes)
    (hencode : ∀ value, Encodes (encode value) value)
    (hshortest : ∀ {form : Bytes} {value : α}, Encodes form value →
      IsShortest (encode value) form) : ShortestCode encode read where
  length_pos value := List.length_pos_iff.mpr (hform (hencode value)).ne_nil
  length_le value := (hform (hencode value)).length_le
  read_encode before after value := by
    have hdata : (before ++ encode value ++ after).drop before.length = encode value ++ after := by
      rw [List.append_assoc, List.drop_left]
    exact hread.mpr ⟨encode value, hencode value, Cursor.passes_ofOffset hdata⟩
  position_le data offset value after hvalue := by
    obtain ⟨form, hencodes, -, hposition⟩ := hread.mp hvalue
    rw [hposition]
    exact Nat.add_le_add_left (hshortest hencodes).1 offset
  unique data offset value after hvalue hlength hshort := by
    obtain ⟨form, hencodes, hrest, hposition⟩ := hread.mp hvalue
    have hequal : (encode value).length = form.length :=
      Nat.add_left_cancel (hlength.symm.trans hposition)
    rw [(hshortest hencodes).2 hequal (hequal ▸ hshort)]
    exact ⟨after.rest, hrest.symm⟩

/-- What is encoded is read back from any place in any data, and it is encoded
as shortly as it can be read. -/
theorem shortestCode_encode :
    ShortestCode encodeUnsigned Cursor.readUnsigned ∧
      ShortestCode encodeSigned Cursor.readSigned := by
  constructor
  · exact .of_encodes Cursor.readUnsigned_eq_ok_iff And.left encodesUnsigned_encodeUnsigned
      isShortest_encodeUnsigned
  · exact .of_encodes Cursor.readSigned_eq_ok_iff And.left encodesSigned_encodeSigned
      isShortest_encodeSigned

end DalvikPrepass.Leb128
