import Mathlib
import DalvikPrepass.Annotations

/-!
# Reading annotations back

The width and the marks of an address share one word, and each write changes
just one of them at one address.  The instruction starts are read off the
widths alone.
-/

namespace DalvikPrepass.Annotations

/-! ## The parts of a word -/

theorem or_and_mask (left right mask : UInt32) :
    (left ||| right) &&& mask = (left &&& mask) ||| (right &&& mask) := by
  apply UInt32.toBitVec_inj.mp
  exact BitVec.and_or_distrib_right

theorem toUInt32_and_widthMask (width : UInt16) :
    width.toUInt32 &&& widthMask = width.toUInt32 := by
  apply UInt32.toNat_inj.mp
  have hmask : widthMask.toNat = 2 ^ 16 - 1 := rfl
  rw [UInt32.toNat_and, UInt16.toNat_toUInt32, hmask, Nat.and_two_pow_sub_one_eq_mod,
    Nat.mod_eq_of_lt width.toNat_lt]

theorem toUInt32_and_bit (width : UInt16) (mark : Mark) : width.toUInt32 &&& mark.bit = 0 := by
  have hdisjoint : widthMask &&& mark.bit = 0 := by cases mark <;> rfl
  calc width.toUInt32 &&& mark.bit = width.toUInt32 &&& widthMask &&& mark.bit := by
        rw [toUInt32_and_widthMask]
    _ = width.toUInt32 &&& (widthMask &&& mark.bit) := UInt32.and_assoc _ _ _
    _ = 0 := by rw [hdisjoint, UInt32.and_zero]

/-- The word that `setWidth` writes holds the new width. -/
theorem and_widthMask_of_setWidth (word : UInt32) (width : UInt16) :
    (word &&& ~~~widthMask ||| width.toUInt32) &&& widthMask = width.toUInt32 := by
  have hdisjoint : ~~~widthMask &&& widthMask = 0 := rfl
  rw [or_and_mask, UInt32.and_assoc, hdisjoint, UInt32.and_zero, UInt32.zero_or,
    toUInt32_and_widthMask]

/-- Writing a width leaves each mark as it is. -/
theorem and_bit_of_setWidth (word : UInt32) (width : UInt16) (mark : Mark) :
    (word &&& ~~~widthMask ||| width.toUInt32) &&& mark.bit = word &&& mark.bit := by
  have hkept : ~~~widthMask &&& mark.bit = mark.bit := by cases mark <;> rfl
  rw [or_and_mask, UInt32.and_assoc, hkept, toUInt32_and_bit, UInt32.or_zero]

theorem and_not_widthMask_of_setWidth (word : UInt32) (width : UInt16) :
    (word &&& ~~~widthMask ||| width.toUInt32) &&& ~~~widthMask = word &&& ~~~widthMask := by
  have hdisjoint : widthMask &&& ~~~widthMask = 0 := rfl
  rw [or_and_mask, UInt32.and_assoc, UInt32.and_self, ← toUInt32_and_widthMask, UInt32.and_assoc,
    hdisjoint, UInt32.and_zero, UInt32.or_zero]

/-- A word is its width and what is above it. -/
theorem and_widthMask_or (word : UInt32) :
    word &&& widthMask ||| word &&& ~~~widthMask = word := by
  have hwhole : widthMask ||| ~~~widthMask = -1 := rfl
  rw [UInt32.and_comm word, UInt32.and_comm word, ← or_and_mask, hwhole, UInt32.neg_one_and]

theorem and_widthMask_of_setMark (word : UInt32) (mark : Mark) (value : Bool) :
    (if value then word ||| mark.bit else word &&& ~~~mark.bit) &&& widthMask =
      word &&& widthMask := by
  have hdisjoint : mark.bit &&& widthMask = 0 := by cases mark <;> rfl
  have hkept : ~~~mark.bit &&& widthMask = widthMask := by cases mark <;> rfl
  cases value with
  | true => rw [if_pos rfl, or_and_mask, hdisjoint, UInt32.or_zero]
  | false => rw [if_neg Bool.false_ne_true, UInt32.and_assoc, hkept]

/-- The word that `setMark` writes holds the new value of the mark. -/
theorem and_bit_of_setMark (word : UInt32) (mark : Mark) (value : Bool) :
    ((if value then word ||| mark.bit else word &&& ~~~mark.bit) &&& mark.bit != 0) = value := by
  have hnonzero : mark.bit ≠ 0 := by cases mark <;> decide
  have hdisjoint : ~~~mark.bit &&& mark.bit = 0 := by cases mark <;> rfl
  cases value with
  | true =>
      rw [if_pos rfl, or_and_mask, UInt32.and_self, bne_iff_ne]
      intro hzero
      exact hnonzero (UInt32.or_eq_zero_iff.mp hzero).2
  | false =>
      rw [if_neg Bool.false_ne_true, UInt32.and_assoc, hdisjoint, UInt32.and_zero]
      rfl

/-- Each mark has a bit of its own. -/
theorem bits_disjoint {mark other : Mark} (hother : other ≠ mark) :
    mark.bit &&& other.bit = 0 ∧ ~~~mark.bit &&& other.bit = other.bit := by
  cases mark with
  | inTry =>
      cases other with
      | inTry => exact absurd rfl hother
      | branchTarget => exact ⟨rfl, rfl⟩
  | branchTarget =>
      cases other with
      | inTry => exact ⟨rfl, rfl⟩
      | branchTarget => exact absurd rfl hother

theorem and_bit_of_setMark_of_ne (word : UInt32) {mark other : Mark} (value : Bool)
    (hother : other ≠ mark) :
    (if value then word ||| mark.bit else word &&& ~~~mark.bit) &&& other.bit =
      word &&& other.bit := by
  obtain ⟨hdisjoint, hkept⟩ := bits_disjoint hother
  cases value with
  | true => rw [if_pos rfl, or_and_mask, hdisjoint, UInt32.or_zero]
  | false => rw [if_neg Bool.false_ne_true, UInt32.and_assoc, hkept]

/-- The part of a word above the width. -/
def aboveWidth (annotations : Annotations) (address : Nat) : UInt32 :=
  annotations.word address &&& ~~~widthMask

/-- The bits of a word that hold neither the width nor a mark. -/
def spareMask : UInt32 := 0xfffc0000

def spare (annotations : Annotations) (address : Nat) : UInt32 :=
  annotations.word address &&& spareMask

/-- The bits that stand for nothing are part of those above the width. -/
theorem spare_eq_aboveWidth (annotations : Annotations) (address : Nat) :
    annotations.spare address = annotations.aboveWidth address &&& spareMask := by
  have hinside : ~~~widthMask &&& spareMask = spareMask := rfl
  rw [spare, aboveWidth, UInt32.and_assoc, hinside]

theorem and_spareMask_of_setMark (word : UInt32) (mark : Mark) (value : Bool) :
    (if value then word ||| mark.bit else word &&& ~~~mark.bit) &&& spareMask =
      word &&& spareMask := by
  have hdisjoint : mark.bit &&& spareMask = 0 := by cases mark <;> rfl
  have hkept : ~~~mark.bit &&& spareMask = spareMask := by cases mark <;> rfl
  cases value with
  | true => rw [if_pos rfl, or_and_mask, hdisjoint, UInt32.or_zero]
  | false => rw [if_neg Bool.false_ne_true, UInt32.and_assoc, hkept]

theorem bit_eq_two_pow (mark : Mark) : ∃ place, mark.bit.toNat = 2 ^ place := by
  cases mark with
  | inTry => exact ⟨16, rfl⟩
  | branchTarget => exact ⟨17, rfl⟩

theorem and_bit_eq (word : UInt32) (mark : Mark) :
    word &&& mark.bit = if word &&& mark.bit != 0 then mark.bit else 0 := by
  obtain ⟨place, hplace⟩ := bit_eq_two_pow mark
  by_cases hzero : word &&& mark.bit = 0
  · simp [hzero]
  · rw [if_pos (bne_iff_ne.mpr hzero)]
    apply UInt32.toNat_inj.mp
    rw [← UInt32.toNat_inj, UInt32.toNat_and, hplace, Nat.and_two_pow] at hzero
    rw [UInt32.toNat_and, hplace, Nat.and_two_pow]
    cases hset : word.toNat.testBit place with
    | true => simp
    | false => simp [hset] at hzero

/-- A word is made up of its width, its marks and its spare bits. -/
theorem and_masks_or (word : UInt32) :
    word &&& widthMask ||| word &&& Mark.inTry.bit ||| word &&& Mark.branchTarget.bit |||
      word &&& spareMask = word := by
  have hwhole : widthMask ||| Mark.inTry.bit ||| Mark.branchTarget.bit ||| spareMask = -1 := rfl
  simp only [UInt32.and_comm word, ← or_and_mask]
  rw [hwhole, UInt32.neg_one_and]

/-! ## Writes -/

section Writes

variable {annotations updated : Annotations} {address : Nat}

/-- A write inside the annotations succeeds. -/
theorem update_of_lt (change : UInt32 → UInt32) (haddress : address < annotations.size) :
    ∃ updated, annotations.update address change = .ok updated := by
  have hinside : address < annotations.words.size := haddress
  rw [update, if_pos hinside]
  exact ⟨_, rfl⟩

theorem size_of_update {change : UInt32 → UInt32}
    (hupdate : annotations.update address change = .ok updated) :
    updated.size = annotations.size := by
  rw [update] at hupdate
  split at hupdate
  · rw [← Except.ok.inj hupdate, size, Array.size_modify, size]
  · simp at hupdate

/-- A write changes one word. -/
theorem word_of_update {change : UInt32 → UInt32}
    (hupdate : annotations.update address change = .ok updated) :
    updated.word = Function.update annotations.word address (change (annotations.word address)) := by
  rw [Annotations.update] at hupdate
  split at hupdate
  · rename_i haddress
    rw [← Except.ok.inj hupdate]
    funext other
    rw [word, Array.getD_eq_getD_getElem?, Array.getElem?_modify]
    by_cases hother : other = address
    · subst hother
      rw [if_pos rfl, Function.update_self, word, Array.getD_eq_getD_getElem?,
        Array.getElem?_eq_getElem haddress]
      rfl
    · rw [if_neg (Ne.symm hother), Function.update_of_ne hother, word,
        Array.getD_eq_getD_getElem?]
  · simp at hupdate

/-- Setting a width changes the width at one address. -/
theorem width_of_setWidth {width : UInt16}
    (hset : annotations.setWidth address width = .ok updated) :
    updated.width = Function.update annotations.width address width.toNat := by
  funext other
  rw [Annotations.width, word_of_update hset]
  by_cases hother : other = address
  · rw [hother, Function.update_self, Function.update_self, and_widthMask_of_setWidth,
      UInt16.toNat_toUInt32]
  · rw [Function.update_of_ne hother, Function.update_of_ne hother, Annotations.width]

theorem has_of_setWidth {width : UInt16}
    (hset : annotations.setWidth address width = .ok updated) : updated.has = annotations.has := by
  funext mark other
  rw [has, has, word_of_update hset]
  by_cases hother : other = address
  · rw [hother, Function.update_self, and_bit_of_setWidth]
  · rw [Function.update_of_ne hother]

theorem aboveWidth_of_setWidth {width : UInt16}
    (hset : annotations.setWidth address width = .ok updated) :
    updated.aboveWidth = annotations.aboveWidth := by
  funext other
  rw [aboveWidth, aboveWidth, word_of_update hset]
  by_cases hother : other = address
  · rw [hother, Function.update_self, and_not_widthMask_of_setWidth]
  · rw [Function.update_of_ne hother]

theorem width_of_setMark {mark : Mark} {value : Bool}
    (hset : annotations.setMark mark address value = .ok updated) :
    updated.width = annotations.width := by
  funext other
  rw [width, width, word_of_update hset]
  by_cases hother : other = address
  · rw [hother, Function.update_self, and_widthMask_of_setMark]
  · rw [Function.update_of_ne hother]

/-- Setting a mark changes it at one address. -/
theorem has_of_setMark {mark : Mark} {value : Bool}
    (hset : annotations.setMark mark address value = .ok updated) :
    updated.has mark = Function.update (annotations.has mark) address value := by
  funext other
  rw [has, word_of_update hset]
  by_cases hother : other = address
  · rw [hother, Function.update_self, Function.update_self, and_bit_of_setMark]
  · rw [Function.update_of_ne hother, Function.update_of_ne hother, has]

/-- The two marks do not depend on each other. -/
theorem has_of_setMark_of_ne {mark other : Mark} {value : Bool}
    (hset : annotations.setMark mark address value = .ok updated) (hother : other ≠ mark) :
    updated.has other = annotations.has other := by
  funext place
  rw [has, has, word_of_update hset]
  by_cases hplace : place = address
  · rw [hplace, Function.update_self, and_bit_of_setMark_of_ne _ value hother]
  · rw [Function.update_of_ne hplace]

theorem spare_of_setMark {mark : Mark} {value : Bool}
    (hset : annotations.setMark mark address value = .ok updated) :
    updated.spare = annotations.spare := by
  funext other
  rw [spare, spare, word_of_update hset]
  by_cases hother : other = address
  · rw [hother, Function.update_self, and_spareMask_of_setMark]
  · rw [Function.update_of_ne hother]

end Writes

/-! ## Instruction starts -/

theorem word_of_size_le {annotations : Annotations} {address : Nat}
    (haddress : annotations.size ≤ address) : annotations.word address = 0 := by
  rw [word, Array.getD_eq_getD_getElem?, Array.getElem?_eq_none haddress]
  rfl

/-- Behind the end of the annotations there is no instruction. -/
theorem lt_size_of_width_ne_zero {annotations : Annotations} {address : Nat}
    (hwidth : annotations.width address ≠ 0) : address < annotations.size := by
  by_contra hbeyond
  apply hwidth
  rw [width, word_of_size_le (Nat.le_of_not_lt hbeyond), UInt32.zero_and]
  rfl

/-- The starts as a filtered list of all addresses, instead of a loop. -/
theorem starts_eq (annotations : Annotations) :
    annotations.starts =
      ((List.range annotations.size).map fun address => (address, annotations.width address)).filter
        fun extent => extent.2 != 0 := by
  rw [starts]
  apply congrArg (List.filter _)
  apply List.ext_getElem
  · rw [List.length_map, List.length_zipIdx, Array.length_toList, List.length_map,
      List.length_range, size]
  · intro address hleft hright
    have haddress : address < annotations.words.size := by
      rw [List.length_map, List.length_range] at hright
      exact hright
    rw [List.getElem_map, List.getElem_zipIdx, List.getElem_map, List.getElem_range, width, word,
      Array.getD_eq_getD_getElem?, Array.getElem?_eq_getElem haddress]
    simp

/-- The starts are the addresses with a width, each with its width. -/
theorem mem_starts {annotations : Annotations} {address width : Nat} :
    (address, width) ∈ annotations.starts ↔ annotations.width address = width ∧ width ≠ 0 := by
  rw [starts_eq, List.mem_filter, List.mem_map, bne_iff_ne]
  constructor
  · rintro ⟨⟨other, -, hother⟩, hwidth⟩
    obtain ⟨rfl, rfl⟩ := Prod.mk.inj hother
    exact ⟨rfl, hwidth⟩
  · rintro ⟨rfl, hwidth⟩
    refine ⟨⟨address, ?_, rfl⟩, hwidth⟩
    exact List.mem_range.mpr (lt_size_of_width_ne_zero hwidth)

/-- The starts are listed in the order of their addresses. -/
theorem starts_pairwise (annotations : Annotations) :
    annotations.starts.Pairwise fun left right => left.1 < right.1 := by
  rw [starts_eq]
  apply List.Pairwise.filter
  apply List.Pairwise.map _ _ List.pairwise_lt_range
  intro left right hlt
  exact hlt

/-- The starts depend on nothing but the widths. -/
theorem starts_congr {annotations others : Annotations} (hsize : others.size = annotations.size)
    (hwidth : others.width = annotations.width) : others.starts = annotations.starts := by
  rw [starts_eq, starts_eq, hsize, hwidth]

theorem size_blank (size : Nat) : (blank size).size = size := by
  rw [blank, Annotations.size, Array.size_replicate]

theorem word_blank (size address : Nat) : (blank size).word address = 0 := by
  rw [blank, word, Array.getD_eq_getD_getElem?, Array.getElem?_replicate]
  split <;> rfl

theorem width_blank (size address : Nat) : (blank size).width address = 0 := by
  rw [width, word_blank, UInt32.zero_and]
  rfl

theorem aboveWidth_blank (size address : Nat) : (blank size).aboveWidth address = 0 := by
  rw [aboveWidth, word_blank, UInt32.zero_and]

theorem has_blank (size : Nat) (mark : Mark) (address : Nat) :
    (blank size).has mark address = false := by
  rw [has, word_blank, UInt32.zero_and]
  rfl

/-- A word is made of the width and what is above it. -/
theorem word_eq_of_parts {annotations others : Annotations} {address place : Nat}
    (hwidth : annotations.width address = others.width place)
    (habove : annotations.aboveWidth address = others.aboveWidth place) :
    annotations.word address = others.word place := by
  rw [← and_widthMask_or (annotations.word address), ← and_widthMask_or (others.word place),
    UInt32.toNat_inj.mp hwidth]
  exact congrArg _ habove

/-- Annotations are equal if they agree word by word. -/
theorem eq_of_word_eq {annotations others : Annotations} (hsize : annotations.size = others.size)
    (hword : ∀ address < annotations.size, annotations.word address = others.word address) :
    annotations = others := by
  obtain ⟨words⟩ := annotations
  obtain ⟨otherWords⟩ := others
  rw [mk.injEq]
  apply Array.ext hsize
  intro address hleft hright
  simpa [word, Array.getD_eq_getD_getElem?, hleft, hright] using hword address hleft

/-- Annotations are told apart by the widths, the marks and the spare bits. -/
theorem eq_of_parts {annotations others : Annotations} (hsize : annotations.size = others.size)
    (hwidth : annotations.width = others.width) (hhas : annotations.has = others.has)
    (hspare : annotations.spare = others.spare) : annotations = others := by
  apply eq_of_word_eq hsize
  intro address _
  have hwidthBits : annotations.word address &&& widthMask = others.word address &&& widthMask :=
    UInt32.toNat_inj.mp (congrFun hwidth address)
  have hbit (mark : Mark) : annotations.word address &&& mark.bit =
      others.word address &&& mark.bit := by
    rw [and_bit_eq, and_bit_eq (others.word address)]
    exact congrArg (fun has : Bool => if has then mark.bit else 0)
      (congrFun (congrFun hhas mark) address)
  have hspareBits : annotations.word address &&& spareMask = others.word address &&& spareMask :=
    congrFun hspare address
  rw [← and_masks_or (annotations.word address), hwidthBits, hbit .inTry, hbit .branchTarget,
    hspareBits, and_masks_or]

end DalvikPrepass.Annotations
