import Mathlib
import DalvikPrepass.Annotations
import DalvikPrepass.Instruction.Width

/-!
# Widths and the code that follows

A width lookup sees all of the rest of the code, but an instruction that fits
into some code must not become another one when more code follows it.  Payloads
are the instructions that look ahead.  A header that the end of the code cuts
gives a makeshift width, which does not fit there, and neither does the width
that the whole header gives.
-/

namespace DalvikPrepass

/-- The width of an instruction that fits stays the same whatever follows. -/
def WidthLookup.Local (lookup : WidthLookup) : Prop :=
  ∀ code more : List CodeUnit, code ≠ [] → lookup code ≤ code.length →
    lookup (code ++ more) = lookup code

namespace Payload

/-- Number of code units in the header after the signature. -/
def headerSize : Payload → Nat
  | packedSwitch | sparseSwitch => 1
  | fillArrayData => 3

/-- Width of a payload without entries. -/
def bareWidth : Payload → Nat
  | packedSwitch | fillArrayData => 4
  | sparseSwitch => 2

theorem headerSize_lt_bareWidth (payload : Payload) :
    payload.headerSize < payload.bareWidth := by
  cases payload <;> decide

theorem bareWidth_le_maxWidth (payload : Payload) :
    payload.bareWidth ≤ Annotations.maxWidth := by
  cases payload <;> decide

theorem bareWidth_le_width (payload : Payload) (rest : List CodeUnit) :
    payload.bareWidth ≤ payload.width rest := by
  fun_cases width payload rest
  all_goals simp [bareWidth]

/-- A payload with an incomplete header counts as a bare one. -/
theorem width_of_cut {payload : Payload} {rest : List CodeUnit}
    (hcut : rest.length < payload.headerSize) : payload.width rest = payload.bareWidth := by
  fun_cases width payload rest with
  | case1 entries rest => simp [headerSize] at hcut
  | case2 => rfl
  | case3 entries rest => simp [headerSize] at hcut
  | case4 => rfl
  | case5 elementWidth low high rest =>
      simp only [headerSize, List.length_cons] at hcut
      omega
  | case6 => rfl

/-- With the whole header at hand the width does not depend on what follows. -/
theorem width_append_of_header {payload : Payload} {rest : List CodeUnit}
    (hheader : payload.headerSize ≤ rest.length) (more : List CodeUnit) :
    payload.width (rest ++ more) = payload.width rest := by
  cases payload with
  | packedSwitch =>
      cases rest with
      | nil => simp [headerSize] at hheader
      | cons entries rest => rfl
  | sparseSwitch =>
      cases rest with
      | nil => simp [headerSize] at hheader
      | cons entries rest => rfl
  | fillArrayData =>
      rcases rest with _ | ⟨elementWidth, _ | ⟨low, _ | ⟨high, rest⟩⟩⟩
      · simp [headerSize] at hheader
      · simp [headerSize] at hheader
      · simp [headerSize] at hheader
      · rfl

end Payload

/-- What more code can do to a width.  Mostly nothing; otherwise the instruction
fits neither before nor after, and its width before fits an annotation. -/
theorem dalvikWidth_append {code : List CodeUnit} (hcode : code ≠ []) (more : List CodeUnit) :
    dalvikWidth (code ++ more) = dalvikWidth code ∨
      code.length < dalvikWidth code ∧ dalvikWidth code ≤ Annotations.maxWidth ∧
        code.length < dalvikWidth (code ++ more) := by
  obtain ⟨unit, rest, rfl⟩ := List.exists_cons_of_ne_nil hcode
  rw [List.cons_append, dalvikWidth, dalvikWidth, payloadWidth, payloadWidth]
  cases Payload.ofUnit unit with
  | none => exact .inl rfl
  | some payload =>
      simp only [Option.map_some]
      by_cases hheader : payload.headerSize ≤ rest.length
      · exact .inl (Payload.width_append_of_header hheader more)
      · right
        have hcut := Nat.lt_of_not_le hheader
        have hbare := payload.headerSize_lt_bareWidth
        have hlonger := payload.bareWidth_le_width (rest ++ more)
        rw [Payload.width_of_cut hcut, List.length_cons]
        exact ⟨by omega, payload.bareWidth_le_maxWidth, by omega⟩

/-- The width of an instruction that is all there depends on nothing behind it. -/
theorem dalvikWidth_local : WidthLookup.Local dalvikWidth := by
  intro code more hcode hfits
  rcases dalvikWidth_append hcode more with hsame | ⟨hlonger, -, -⟩
  · exact hsame
  · exact absurd hfits (Nat.not_le_of_lt hlonger)

/-- An instruction that the end of the code cuts is recognised, and its width
there fits an annotation but not the code. -/
theorem dalvikWidth_of_cut {code more : List CodeUnit} (hcode : code ≠ [])
    (hcut : code.length < dalvikWidth (code ++ more))
    (hwidth : dalvikWidth (code ++ more) ≤ Annotations.maxWidth) :
    code.length < dalvikWidth code ∧ dalvikWidth code ≤ Annotations.maxWidth := by
  rcases dalvikWidth_append hcode more with hsame | ⟨hlonger, hbound, -⟩
  · rw [← hsame]
    exact ⟨hcut, hwidth⟩
  · exact ⟨hlonger, hbound⟩

/-- Code that is cut after an instruction still begins with it. -/
theorem dalvikWidth_of_append_le {code more : List CodeUnit} (hcode : code ≠ [])
    (hfits : dalvikWidth (code ++ more) ≤ code.length) :
    dalvikWidth code = dalvikWidth (code ++ more) := by
  rcases dalvikWidth_append hcode more with hsame | ⟨-, -, hlonger⟩
  · exact hsame.symm
  · exact absurd hfits (Nat.not_le_of_lt hlonger)

end DalvikPrepass
