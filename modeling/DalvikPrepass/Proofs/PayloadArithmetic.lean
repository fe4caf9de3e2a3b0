import Mathlib
import DalvikPrepass.Proofs.OpcodeTable
import DalvikPrepass.Proofs.WidthLocality

/-!
# Widths in machine words

The header of a payload can ask for far more code units than an instruction may
have.  Computed in words of 64 bits its width is still exact, because no header is
large enough for a sum or a product to leave a word.  So no payload that is too
wide passes for a narrower one, and none is mistaken for another when the code
goes on behind it.
-/

namespace DalvikPrepass

/-! ## Exact words -/

namespace ExactWord

/-- The sum, if a word can hold it. -/
def add (left right : UInt64) : Option UInt64 :=
  if left.toNat + right.toNat < 2 ^ 64 then some (left + right) else none

/-- The product, if a word can hold it. -/
def mul (left right : UInt64) : Option UInt64 :=
  if left.toNat * right.toNat < 2 ^ 64 then some (left * right) else none

/-- Half of a word, rounded up. -/
def halfUp (word : UInt64) : Option UInt64 :=
  if word % 2 = 0 then some (word / 2) else add (word / 2) 1

/-- The computation comes to its end in a word that holds this number. -/
def Holds (result : Option UInt64) (number : Nat) : Prop :=
  ∃ word, result = some word ∧ word.toNat = number

theorem holds_some (word : UInt64) : Holds (some word) word.toNat :=
  ⟨word, rfl, rfl⟩

theorem holds_add {left right : UInt64} (hfits : left.toNat + right.toNat < 2 ^ 64) :
    Holds (add left right) (left.toNat + right.toNat) := by
  refine ⟨left + right, if_pos hfits, ?_⟩
  rw [UInt64.toNat_add, Nat.mod_eq_of_lt hfits]

theorem holds_mul {left right : UInt64} (hfits : left.toNat * right.toNat < 2 ^ 64) :
    Holds (mul left right) (left.toNat * right.toNat) := by
  refine ⟨left * right, if_pos hfits, ?_⟩
  rw [UInt64.toNat_mul, Nat.mod_eq_of_lt hfits]

theorem holds_halfUp (word : UInt64) : Holds (halfUp word) ((word.toNat + 1) / 2) := by
  have hword := word.toNat_lt
  have hhalf : (word / 2).toNat = word.toNat / 2 := UInt64.toNat_div word 2
  have heven : word % 2 = 0 ↔ word.toNat % 2 = 0 := by
    rw [← UInt64.toNat_inj, UInt64.toNat_mod]
    rfl
  rw [halfUp]
  by_cases hzero : word % 2 = 0
  · refine ⟨word / 2, if_pos hzero, ?_⟩
    rw [heven] at hzero
    omega
  · have hadd : Holds (add (word / 2) 1) (word.toNat / 2 + 1) := by
      rw [← hhalf]
      apply holds_add
      rw [hhalf, UInt64.toNat_one]
      omega
    rw [if_neg hzero]
    rw [heven] at hzero
    rwa [show (word.toNat + 1) / 2 = word.toNat / 2 + 1 by omega]

/-- Steps in turn are exact if each of them is. -/
theorem holds_bind {first : Option UInt64} {next : UInt64 → Option UInt64} {number result : Nat}
    (hfirst : Holds first number)
    (hnext : ∀ word, word.toNat = number → Holds (next word) result) :
    Holds (first >>= next) result := by
  obtain ⟨word, rfl, hword⟩ := hfirst
  exact hnext word hword

end ExactWord

/-! ## Payloads -/

namespace Payload

open ExactWord

/-- The width of a payload in words of 64 bits; none if some step of the
computation does not fit. -/
def wordWidth : Payload → List CodeUnit → Option UInt64
  | packedSwitch, entries :: _ => do
      add 4 (← mul entries.toUInt64 2)
  | packedSwitch, [] => some 4
  | sparseSwitch, entries :: _ => do
      add 2 (← mul entries.toUInt64 4)
  | sparseSwitch, [] => some 2
  | fillArrayData, elementWidth :: low :: high :: _ => do
      let bytes ← mul elementWidth.toUInt64 (low.toUInt64 ||| high.toUInt64 <<< 16)
      add 4 (← halfUp bytes)
  | fillArrayData, _ => some 4

/-- The code units after the signature begin with a header that declares this
size, section by section: the signature, the header, and the entries. -/
inductive Declares : Payload → List CodeUnit → (size : Nat) → Prop
  /-- The header is the number of entries and the first key, of two code units;
  an entry is a target of two. -/
  | packedSwitch {entries : CodeUnit} {rest : List CodeUnit} :
      Declares packedSwitch (entries :: rest) (1 + (1 + 2) + 2 * entries.toNat)
  /-- The header is the number of entries; an entry is a key and a target. -/
  | sparseSwitch {entries : CodeUnit} {rest : List CodeUnit} :
      Declares sparseSwitch (entries :: rest) (1 + 1 + (2 + 2) * entries.toNat)
  /-- The header is the bytes of an element and the number of elements, of two
  code units; the bytes of all elements fill whole code units. -/
  | fillArrayData {elementWidth low high : CodeUnit} {rest : List CodeUnit} {bytes : Nat}
      (hbytes : bytes = elementWidth.toNat * (low.toNat + 2 ^ 16 * high.toNat)) :
      Declares fillArrayData (elementWidth :: low :: high :: rest)
        (1 + (1 + 2) + ⌈(bytes / 2 : ℚ)⌉₊)

/-! ## What is declared -/

theorem ceil_half (number : Nat) : ⌈(number / 2 : ℚ)⌉₊ = (number + 1) / 2 := by
  apply eq_of_forall_ge_iff
  intro bound
  rw [Nat.ceil_le, div_le_iff₀ two_pos]
  norm_cast
  omega

/-- The width is the size that the payload declares. -/
theorem width_of_declares {payload : Payload} {rest : List CodeUnit} {size : Nat}
    (hdeclares : payload.Declares rest size) : payload.width rest = size := by
  cases hdeclares with
  | packedSwitch =>
      rw [width]
      omega
  | sparseSwitch =>
      rw [width]
      omega
  | fillArrayData hbytes =>
      rw [width, ceil_half, hbytes]
      rfl

theorem exists_declares {payload : Payload} {rest : List CodeUnit}
    (hheader : payload.headerSize ≤ rest.length) : ∃ size, payload.Declares rest size := by
  cases payload with
  | packedSwitch =>
      obtain ⟨entries, rest, rfl⟩ := List.exists_cons_of_length_pos hheader
      exact ⟨_, .packedSwitch⟩
  | sparseSwitch =>
      obtain ⟨entries, rest, rfl⟩ := List.exists_cons_of_length_pos hheader
      exact ⟨_, .sparseSwitch⟩
  | fillArrayData =>
      rcases rest with _ | ⟨elementWidth, _ | ⟨low, _ | ⟨high, rest⟩⟩⟩
      · simp [headerSize] at hheader
      · simp [headerSize] at hheader
      · simp [headerSize] at hheader
      · exact ⟨_, .fillArrayData rfl⟩

/-! ## What is computed -/

theorem toNat_elements (low high : CodeUnit) :
    (low.toUInt64 ||| high.toUInt64 <<< 16).toNat = low.toNat + 0x10000 * high.toNat := by
  have hlow := low.toNat_lt
  have hhigh := high.toNat_lt
  have hshift : (high.toUInt64 <<< 16).toNat = high.toNat <<< 16 := by
    have hfits : high.toNat <<< 16 < 2 ^ 64 := by
      rw [Nat.shiftLeft_eq]
      omega
    rw [UInt64.toNat_shiftLeft, UInt16.toNat_toUInt64]
    exact Nat.mod_eq_of_lt hfits
  rw [UInt64.toNat_or, hshift, UInt16.toNat_toUInt64, Nat.or_comm,
    ← Nat.shiftLeft_add_eq_or_of_lt hlow, Nat.shiftLeft_eq]
  omega

/-- However large its numbers are, an array has fewer than `2 ^ 48` bytes. -/
theorem mul_elements_lt (elementWidth low high : CodeUnit) :
    elementWidth.toNat * (low.toNat + 0x10000 * high.toNat) < 2 ^ 48 := by
  have hlow := low.toNat_lt
  have hhigh := high.toNat_lt
  have helements : low.toNat + 0x10000 * high.toNat ≤ 2 ^ 32 := by omega
  calc elementWidth.toNat * (low.toNat + 0x10000 * high.toNat)
      ≤ elementWidth.toNat * 2 ^ 32 := Nat.mul_le_mul_left _ helements
    _ < 2 ^ 16 * 2 ^ 32 := Nat.mul_lt_mul_of_pos_right elementWidth.toNat_lt (by decide)
    _ = 2 ^ 48 := by decide

/-- The counts of a payload are too small for a width above 48 bits. -/
theorem width_lt (payload : Payload) (rest : List CodeUnit) : payload.width rest < 2 ^ 48 := by
  fun_cases width payload rest with
  | case1 entries rest =>
      have hentries := entries.toNat_lt
      omega
  | case2 => decide
  | case3 entries rest =>
      have hentries := entries.toNat_lt
      omega
  | case4 => decide
  | case5 elementWidth low high rest elements =>
      have hbytes : elementWidth.toNat * elements < 2 ^ 48 := mul_elements_lt elementWidth low high
      omega
  | case6 => decide

/-- A number of entries times their size, and the code units in front of them. -/
theorem holds_entries (entries : CodeUnit) {front size : UInt64} (hfront : front.toNat < 2 ^ 16)
    (hsize : size.toNat < 2 ^ 16) :
    Holds (do add front (← mul entries.toUInt64 size))
      (front.toNat + entries.toNat * size.toNat) := by
  have hentries : entries.toUInt64.toNat < 2 ^ 16 := by
    rw [UInt16.toNat_toUInt64]
    exact entries.toNat_lt
  have hproduct := Nat.mul_lt_mul'' hentries hsize
  rw [← UInt16.toNat_toUInt64]
  refine holds_bind (holds_mul (by omega)) fun word hword => ?_
  rw [← hword]
  exact holds_add (by omega)

/-- The bytes of some elements in whole code units, and the code units in front of
them. -/
theorem holds_elements {elementWidth elements : UInt64}
    (hbytes : elementWidth.toNat * elements.toNat < 2 ^ 48) :
    Holds (do
        let bytes ← mul elementWidth elements
        add 4 (← halfUp bytes))
      (4 + (elementWidth.toNat * elements.toNat + 1) / 2) := by
  have hfour : (4 : UInt64).toNat = 4 := rfl
  refine holds_bind (holds_mul (by omega)) fun bytes htotal => ?_
  refine holds_bind (holds_halfUp bytes) fun half hhalf => ?_
  rw [← htotal, ← hhalf, ← hfour]
  apply holds_add
  omega

/-- No step of the computation leaves a word. -/
theorem holds_wordWidth (payload : Payload) (rest : List CodeUnit) :
    Holds (payload.wordWidth rest) (payload.width rest) := by
  fun_cases width payload rest with
  | case1 entries rest => exact holds_entries entries (by decide) (by decide)
  | case2 => exact holds_some 4
  | case3 entries rest => exact holds_entries entries (by decide) (by decide)
  | case4 => exact holds_some 2
  | case5 elementWidth low high rest elements =>
      have hbytes : elementWidth.toNat * elements < 2 ^ 48 := mul_elements_lt elementWidth low high
      have hwidth := UInt16.toNat_toUInt64 elementWidth
      have helements : _ = elements := toNat_elements low high
      rw [← hwidth, ← helements] at hbytes ⊢
      exact holds_elements hbytes
  | case6 rest hcut =>
      rw [wordWidth]
      · exact holds_some 4
      · exact hcut

end Payload

/-! ## All code -/

/-- No instruction is longer than five code units. -/
theorem Opcode.size_le (opcode : Opcode) : opcode.size ≤ 5 := by
  rw [Opcode.size]
  cases opcode.format <;> decide

theorem dalvikWidth_of_payload {unit : CodeUnit} {payload : Payload}
    (hunit : Payload.ofUnit unit = some payload) (rest : List CodeUnit) :
    dalvikWidth (unit :: rest) = payload.width rest := by
  simp only [dalvikWidth, payloadWidth, hunit, Option.map_some]

/-- No width needs more than 48 bits. -/
theorem dalvikWidth_lt (unit : CodeUnit) (rest : List CodeUnit) :
    dalvikWidth (unit :: rest) < 2 ^ 48 := by
  by_cases hzero : dalvikWidth (unit :: rest) = 0
  · rw [hzero]
    decide
  · rcases exists_payload_or_opcode hzero with ⟨payload, hpayload⟩ | ⟨hnone, opcode, hopcode⟩
    · rw [dalvikWidth_of_payload hpayload]
      exact payload.width_lt rest
    · rw [dalvikWidth_of_opcode hnone hopcode]
      exact opcode.size_le.trans_lt (by decide)

/-- An instruction that fits is the same whatever follows it, and one that is cut
does not fit either when more code follows.  All widths are computed exactly, and
a payload is as wide as its header declares as soon as the header is there. -/
theorem dalvikWidth_settled (unit : CodeUnit) (rest more : List CodeUnit) :
    (dalvikWidth (unit :: rest) ≤ (unit :: rest).length →
        dalvikWidth (unit :: rest ++ more) = dalvikWidth (unit :: rest)) ∧
      ((unit :: rest).length < dalvikWidth (unit :: rest) →
        (unit :: rest).length < dalvikWidth (unit :: rest ++ more)) ∧
      dalvikWidth (unit :: rest) < 2 ^ 48 ∧
      ∀ payload, Payload.ofUnit unit = some payload →
        ExactWord.Holds (payload.wordWidth rest) (dalvikWidth (unit :: rest)) ∧
        (payload.headerSize ≤ rest.length → ∃ size, payload.Declares rest size) ∧
        ∀ size, payload.Declares rest size → dalvikWidth (unit :: rest) = size := by
  have hcode : unit :: rest ≠ [] := List.cons_ne_nil unit rest
  refine ⟨dalvikWidth_local _ more hcode, ?_, dalvikWidth_lt unit rest, ?_⟩
  · intro hcut
    rcases dalvikWidth_append hcode more with hsame | ⟨-, -, hlonger⟩
    · rw [hsame]
      exact hcut
    · exact hlonger
  · intro payload hpayload
    rw [dalvikWidth_of_payload hpayload]
    refine ⟨payload.holds_wordWidth rest, Payload.exists_declares, ?_⟩
    intro size hdeclares
    exact Payload.width_of_declares hdeclares

/-- The widest payload that a header can ask for. -/
example : dalvikWidth [0x0300, 0xffff, 0xffff, 0xffff] = 140735340838917 := by
  decide

end DalvikPrepass
