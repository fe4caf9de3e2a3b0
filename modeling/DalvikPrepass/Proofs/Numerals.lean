import Mathlib
import DalvikPrepass.Numeral

/-!
# Reading numerals back

The reader of numerals gets back every number that is written, whatever zeros
the numeral is filled with.  So numbers with the same numeral are the same, and
a numeral ends at the first character that is no digit.
-/

namespace DalvikPrepass.Numeral

/-- A written digit is read back. -/
theorem digitValue_digitChar {digit : Nat} (hdigit : digit < 16) :
    digitValue (Nat.digitChar digit) = some digit := by
  revert digit
  decide

theorem zero_le_digitChar {digit : Nat} (hdigit : digit < 16) : '0' ≤ Nat.digitChar digit := by
  revert digit
  decide

section Digits

variable {base : Nat} (hbase : 1 < base) (hlargest : base ≤ 16)

include hbase hlargest

/-- No digit is a space or a sign, so that a number ends where one of these
stands. -/
theorem zero_le_of_mem_toDigits {value : Nat} {char : Char}
    (hmem : char ∈ Nat.toDigits base value) : '0' ≤ char := by
  induction value using Nat.strong_induction_on with
  | h value ih =>
      rw [Nat.toDigits_eq_if hbase] at hmem
      split at hmem
      · rename_i hsmall
        rw [List.mem_singleton.mp hmem]
        exact zero_le_digitChar (Nat.lt_of_lt_of_le hsmall hlargest)
      · rename_i hlarge
        rcases List.mem_append.mp hmem with hhigh | hlast
        · exact ih (value / base) (Nat.div_lt_self (by omega) hbase) hhigh
        · rw [List.mem_singleton.mp hlast]
          have hlt := Nat.mod_lt value (Nat.zero_lt_of_lt hbase)
          exact zero_le_digitChar (Nat.lt_of_lt_of_le hlt hlargest)

omit hbase in
theorem digitsValue_append_digit {chars : List Char} {value digit : Nat}
    (hvalue : digitsValue base chars = some value) (hdigit : digit < base) :
    digitsValue base (chars ++ [Nat.digitChar digit]) = some (value * base + digit) := by
  cases chars with
  | nil => simp [digitsValue] at hvalue
  | cons char chars =>
      rw [List.cons_append, digitsValue, ← List.cons_append, List.foldlM_append]
      · rw [digitsValue] at hvalue
        · rw [hvalue]
          simp [digitValue_digitChar (Nat.lt_of_lt_of_le hdigit hlargest), hdigit]
        · simp
      · simp

/-- A written number is read back. -/
theorem digitsValue_toDigits (value : Nat) :
    digitsValue base (Nat.toDigits base value) = some value := by
  induction value using Nat.strong_induction_on with
  | h value ih =>
      rw [Nat.toDigits_eq_if hbase]
      split
      · rename_i hsmall
        simp [digitsValue, digitValue_digitChar (Nat.lt_of_lt_of_le hsmall hlargest), hsmall]
      · have hhigh := ih (value / base) (Nat.div_lt_self (by omega) hbase)
        rw [digitsValue_append_digit hlargest hhigh (Nat.mod_lt value (by omega)),
          Nat.div_add_mod']

/-- Different numbers are written differently. -/
theorem toDigits_injective : Function.Injective (Nat.toDigits base) := by
  intro left right hsame
  have hread := congrArg (digitsValue base) hsame
  simpa only [digitsValue_toDigits hbase hlargest, Option.some.injEq] using hread

end Digits

theorem digitsValue_zero_cons {base : Nat} (hbase : 0 < base) {chars : List Char}
    (hchars : chars ≠ []) : digitsValue base ('0' :: chars) = digitsValue base chars := by
  have hzero : digitValue '0' = some 0 := rfl
  cases chars with
  | nil => exact absurd rfl hchars
  | cons char chars => simp [digitsValue, hzero, hbase]

/-- Zeros in front of a number do not count. -/
theorem digitsValue_filled {base : Nat} (hbase : 1 < base) (hlargest : base ≤ 16)
    (zeros value : Nat) :
    digitsValue base (List.replicate zeros '0' ++ Nat.toDigits base value) = some value := by
  induction zeros with
  | zero => exact digitsValue_toDigits hbase hlargest value
  | succ zeros ih =>
      rw [List.replicate_succ, List.cons_append,
        digitsValue_zero_cons (Nat.zero_lt_of_lt hbase) (by simp), ih]

/-- The digits that `hexFilled` shows. -/
def filledDigits (digits value : Nat) : List Char :=
  List.replicate (digits - (hexDigits value).length) '0' ++ hexDigits value

/-- An address as it is shown: a mark and then at least so many digits. -/
theorem toList_hexFilled (digits value : Nat) :
    (hexFilled digits value).toList = '0' :: 'x' :: filledDigits digits value := by
  simp only [hexFilled, String.toList_append, String.toList_ofList]
  rfl

/-- Different addresses are shown differently. -/
theorem filledDigits_injective (digits : Nat) : Function.Injective (filledDigits digits) := by
  intro left right hsame
  have hread := congrArg (digitsValue 16) hsame
  simpa only [filledDigits, hexDigits, digitsValue_filled (by decide : 1 < 16) (Nat.le_refl 16),
    Option.some.injEq] using hread

theorem zero_le_of_mem_filledDigits {digits value : Nat} {char : Char}
    (hmem : char ∈ filledDigits digits value) : '0' ≤ char := by
  rcases List.mem_append.mp hmem with hzero | hdigit
  · rw [List.eq_of_mem_replicate hzero]
  · exact zero_le_of_mem_toDigits (by decide) (Nat.le_refl 16) hdigit

end DalvikPrepass.Numeral
