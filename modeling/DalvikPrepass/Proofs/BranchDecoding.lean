import Mathlib
import DalvikPrepass.Instruction.Branch
import DalvikPrepass.Proofs.OpcodeTable
import DalvikPrepass.Proofs.ScanComposition
import DalvikPrepass.Proofs.TryMarks

/-!
# Branches and the opcode table

The decoder of branches knows its opcodes and their sizes by itself, apart from
the table.  Both agree: a branch is found where the table has a branch format
and the code has all units of the instruction, and its offset is the one that
these units store in two's complement.
-/

namespace DalvikPrepass

namespace Format

/-- Number of bits in which a branch of this format stores its offset. -/
def offsetBits : Format → Nat
  | f10t => 8
  | f30t => 32
  | _ => 16

/-- The bits of the offset that the units of a branch store: the high byte of the
first one, the second one, or the second and the third. -/
def storedBits (units : List CodeUnit) : Format → Nat
  | f10t => (units.getD 0 0).toNat / 0x100
  | f30t => (units.getD 1 0).toNat + 0x10000 * (units.getD 2 0).toNat
  | _ => (units.getD 1 0).toNat

/-- The offset that the units of a branch store; `Int.bmod` extends the sign. -/
def storedOffset (format : Format) (units : List CodeUnit) : Int :=
  Int.bmod (format.storedBits units) (2 ^ format.offsetBits)

/-- The offset fits into the bits that there are for it. -/
def Stores (format : Format) (offset : Int) : Prop :=
  -2 ^ (format.offsetBits - 1) ≤ offset ∧ offset < 2 ^ (format.offsetBits - 1)

end Format

namespace Branch

/-- The units of a branch.  Where the offset is not in the high byte of the
first unit, that byte is the `operand`. -/
def encode (opcode : Opcode) (operand : UInt8) (offset : Int) : List CodeUnit :=
  let first (high : UInt8) := UInt16.ofNat (opcode.value.toNat + 0x100 * high.toNat)
  match opcode.format with
  | .f10t => [first (UInt8.ofInt offset)]
  | .f30t => [first operand, UInt16.ofInt offset, UInt16.ofInt (offset / 0x10000)]
  | _ => [first operand, UInt16.ofInt offset]

/-- The branch is the one that units of this format hold. -/
structure IsHeld (branch : Branch) (format : Format) (units : List CodeUnit) : Prop where
  offset : branch.offset.toInt = format.storedOffset units
  conditional : branch.conditional = true ↔ format = .f21t ∨ format = .f22t

/-- By the table, an instruction with a branch format starts at the address and
does not run past the end of the code. -/
structure StartsAt (opcode : Opcode) (code : List CodeUnit) (address : Nat) : Prop where
  inside : address < code.length
  found : Opcode.ofUnit (code.getD address 0) = some opcode
  branch : opcode.format.isBranch = true
  fits : address + opcode.size ≤ code.length

/-! ## The decoder's own formats -/

/-- The format that the decoder goes by. -/
def formatOf (value : UInt8) : Option Format :=
  if value = 0x28 then some .f10t
  else if value = 0x29 then some .f20t
  else if value = 0x2a then some .f30t
  else if 0x32 ≤ value ∧ value ≤ 0x3d then some (if value ≤ 0x37 then .f22t else .f21t)
  else none

theorem formatOf_of_mem :
    ∀ opcode ∈ Opcode.table, formatOf opcode.value =
      if opcode.format.isBranch then some opcode.format else none := by
  decide +kernel

theorem lookup_of_formatOf :
    ∀ number < 256, (formatOf (UInt8.ofNat number)).isSome = true →
      (Opcode.lookup (UInt8.ofNat number)).isSome = true := by
  decide +kernel

/-- The decoder goes by the formats of the table. -/
theorem formatOf_eq_some_iff {value : UInt8} {format : Format} :
    formatOf value = some format ↔
      ∃ opcode, Opcode.lookup value = some opcode ∧ opcode.format.isBranch = true ∧
        opcode.format = format := by
  constructor
  · intro hformat
    have hfound := lookup_of_formatOf value.toNat value.toNat_lt
    rw [UInt8.ofNat_toNat, hformat] at hfound
    obtain ⟨opcode, hlookup⟩ := Option.isSome_iff_exists.mp (hfound rfl)
    obtain ⟨hmem, rfl⟩ := Opcode.mem_of_lookup hlookup
    rw [formatOf_of_mem opcode hmem] at hformat
    by_cases hbranch : opcode.format.isBranch = true
    · rw [if_pos hbranch] at hformat
      exact ⟨opcode, hlookup, hbranch, Option.some.inj hformat⟩
    · rw [if_neg hbranch] at hformat
      cases hformat
  · rintro ⟨opcode, hlookup, hbranch, rfl⟩
    obtain ⟨hmem, rfl⟩ := Opcode.mem_of_lookup hlookup
    rw [formatOf_of_mem opcode hmem, if_pos hbranch]

/-! ## Stored offsets -/

/-- A code unit stores a signed offset. -/
theorem toInt_unitOffset (unit : CodeUnit) :
    (unitOffset unit).toInt = Int.bmod unit.toNat (2 ^ 16) := by
  rw [unitOffset, Int16.toInt_toInt32]
  exact BitVec.toInt_eq_toNat_bmod unit.toBitVec

theorem toInt_byteOffset (unit : CodeUnit) :
    (unit / 0x100).toUInt8.toInt8.toInt32.toInt = Int.bmod (unit.toNat / 0x100 : Nat) (2 ^ 8) := by
  have hbyte : (unit / 0x100).toUInt8.toNat = unit.toNat / 0x100 := by
    have hunit := unit.toNat_lt
    rw [UInt16.toNat_toUInt8, UInt16.toNat_div]
    exact Nat.mod_eq_of_lt (by simp; omega)
  rw [Int8.toInt_toInt32, ← hbyte]
  exact BitVec.toInt_eq_toNat_bmod _

theorem toInt_wordOffset (low high : CodeUnit) :
    (low.toUInt32 + 0x10000 * high.toUInt32).toInt32.toInt =
      Int.bmod (low.toNat + 0x10000 * high.toNat : Nat) (2 ^ 32) := by
  have hword : (low.toUInt32 + 0x10000 * high.toUInt32).toNat =
      low.toNat + 0x10000 * high.toNat := by
    have hlow := low.toNat_lt
    have hhigh := high.toNat_lt
    have hfactor : (0x10000 : UInt32).toNat = 0x10000 := rfl
    rw [UInt32.toNat_add, UInt32.toNat_mul, UInt16.toNat_toUInt32, UInt16.toNat_toUInt32, hfactor]
    omega
  rw [← hword]
  exact BitVec.toInt_eq_toNat_bmod _

/-! ## Decoding at the front of the code -/

/-- Code holds at most one branch of a format. -/
theorem IsHeld.unique {branch other : Branch} {format : Format} {units : List CodeUnit}
    (hbranch : branch.IsHeld format units) (hother : other.IsHeld format units) :
    branch = other := by
  have hoffset := Int32.toInt_inj.mp (hbranch.offset.trans hother.offset.symm)
  have hconditional : branch.conditional = other.conditional := by
    rw [Bool.eq_iff_iff, hbranch.conditional, hother.conditional]
  obtain ⟨offset, conditional⟩ := branch
  obtain ⟨otherOffset, otherConditional⟩ := other
  exact congrArg₂ Branch.mk hoffset hconditional

/-- The formats of an `if` differ in their registers only. -/
theorem isHeld_conditional {format : Format} (hformat : format = .f21t ∨ format = .f22t)
    (unit offset : CodeUnit) (rest : List CodeUnit) :
    IsHeld ⟨unitOffset offset, true⟩ format (unit :: offset :: rest) where
  offset := by
    rcases hformat with rfl | rfl
    · exact toInt_unitOffset offset
    · exact toInt_unitOffset offset
  conditional := iff_of_true rfl hformat

/-- The decoder finds nothing but whole instructions of its formats. -/
theorem exists_format_of_decode {unit : CodeUnit} {operands : List CodeUnit} {branch : Branch}
    (hdecode : decode (unit :: operands) = some branch) :
    ∃ format, formatOf (Opcode.valueOf unit) = some format ∧
      format.size ≤ (unit :: operands).length := by
  simp only [decode] at hdecode
  rw [formatOf]
  split_ifs at hdecode ⊢ with hbyte hunit hword hcond hlow
  · exact ⟨.f10t, rfl, Nat.le_add_left _ _⟩
  · cases operands with
    | nil => cases hdecode
    | cons offset rest => exact ⟨.f20t, rfl, Nat.le_add_left _ _⟩
  · rcases operands with _ | ⟨low, _ | ⟨high, rest⟩⟩
    · cases hdecode
    · cases hdecode
    · exact ⟨.f30t, rfl, Nat.le_add_left _ _⟩
  · cases operands with
    | nil => cases hdecode
    | cons offset rest => exact ⟨.f22t, rfl, Nat.le_add_left _ _⟩
  · cases operands with
    | nil => cases hdecode
    | cons offset rest => exact ⟨.f21t, rfl, Nat.le_add_left _ _⟩

/-- Every whole instruction of its formats is found by the decoder. -/
theorem exists_isHeld {unit : CodeUnit} {operands : List CodeUnit} {format : Format}
    (hformat : formatOf (Opcode.valueOf unit) = some format)
    (hfits : format.size ≤ (unit :: operands).length) :
    ∃ branch, decode (unit :: operands) = some branch ∧
      branch.IsHeld format (unit :: operands) := by
  rw [formatOf] at hformat
  simp only [decode]
  split_ifs at hformat ⊢ with hbyte hunit hword hcond hlow
  all_goals obtain rfl := Option.some.inj hformat
  · exact ⟨_, rfl, toInt_byteOffset unit, by simp⟩
  · rcases operands with _ | ⟨offset, rest⟩
    · simp [Format.size] at hfits
    · exact ⟨_, rfl, toInt_unitOffset offset, by simp⟩
  · rcases operands with _ | ⟨low, _ | ⟨high, rest⟩⟩
    · simp [Format.size] at hfits
    · simp [Format.size] at hfits
    · exact ⟨_, rfl, toInt_wordOffset low high, by simp⟩
  · rcases operands with _ | ⟨offset, rest⟩
    · simp [Format.size] at hfits
    · exact ⟨_, rfl, isHeld_conditional (.inr rfl) unit offset rest⟩
  · rcases operands with _ | ⟨offset, rest⟩
    · simp [Format.size] at hfits
    · exact ⟨_, rfl, isHeld_conditional (.inl rfl) unit offset rest⟩

/-! ## Decoding anywhere in the code -/

section Anywhere

variable {opcode : Opcode} {code : List CodeUnit} {address : Nat} {branch : Branch}

theorem drop_eq_cons (hinside : address < code.length) :
    code.drop address = code.getD address 0 :: code.drop (address + 1) := by
  rw [List.drop_eq_getElem_cons hinside, List.getD_eq_getElem _ _ hinside]

theorem exists_decodeAt (hstarts : StartsAt opcode code address) :
    ∃ branch, decodeAt code address = some branch ∧
      branch.IsHeld opcode.format (code.drop address) := by
  obtain ⟨hinside, hlookup, hbranch, hsize⟩ := hstarts
  have hformat := formatOf_eq_some_iff.mpr ⟨opcode, hlookup, hbranch, rfl⟩
  have hfits : opcode.format.size ≤ (code.drop address).length := by
    rw [List.length_drop]
    exact Nat.le_sub_of_add_le' hsize
  rw [decodeAt]
  rw [drop_eq_cons hinside] at hfits ⊢
  exact exists_isHeld hformat hfits

theorem exists_startsAt (hdecode : decodeAt code address = some branch) :
    ∃ opcode, StartsAt opcode code address := by
  rw [decodeAt] at hdecode
  have hinside : address < code.length := by
    by_contra hbeyond
    rw [List.drop_eq_nil_of_le (Nat.le_of_not_lt hbeyond)] at hdecode
    cases hdecode
  have hcode := drop_eq_cons hinside
  rw [hcode] at hdecode
  obtain ⟨format, hformat, hfits⟩ := exists_format_of_decode hdecode
  obtain ⟨opcode, hlookup, hbranch, rfl⟩ := formatOf_eq_some_iff.mp hformat
  rw [← hcode, List.length_drop] at hfits
  refine ⟨opcode, hinside, hlookup, hbranch, ?_⟩
  rw [Opcode.size]
  omega

/-- A branch is found just where the table has one that fits into the code. -/
theorem isSome_decodeAt_iff :
    (decodeAt code address).isSome = true ↔ ∃ opcode, StartsAt opcode code address := by
  rw [Option.isSome_iff_exists]
  constructor
  · rintro ⟨branch, hdecode⟩
    exact exists_startsAt hdecode
  · rintro ⟨opcode, hstarts⟩
    obtain ⟨branch, hdecode, -⟩ := exists_decodeAt hstarts
    exact ⟨branch, hdecode⟩

theorem isHeld_of_decodeAt (hstarts : StartsAt opcode code address)
    (hdecode : decodeAt code address = some branch) :
    branch.IsHeld opcode.format (code.drop address) := by
  obtain ⟨found, hfound, hheld⟩ := exists_decodeAt hstarts
  obtain rfl := Option.some.inj (hdecode.symm.trans hfound)
  exact hheld

/-! ## Units that the decoder looks at -/

theorem getD_take {units : List CodeUnit} {count index : Nat} (hindex : index < count) :
    (units.take count).getD index 0 = units.getD index 0 := by
  rw [List.getD_eq_getElem?_getD, List.getD_eq_getElem?_getD, List.getElem?_take_of_lt hindex]

theorem storedOffset_take {format : Format} (hbranch : format.isBranch = true)
    (units : List CodeUnit) :
    format.storedOffset (units.take format.size) = format.storedOffset units := by
  have hbits : format.storedBits (units.take format.size) = format.storedBits units := by
    cases format with
    | f10t => simp only [Format.storedBits, Format.size, getD_take Nat.zero_lt_one]
    | f20t | f21t | f22t => simp only [Format.storedBits, Format.size, getD_take Nat.one_lt_two]
    | f30t =>
        simp only [Format.storedBits, Format.size, getD_take (Nat.lt_succ_of_lt Nat.one_lt_two),
          getD_take (Nat.lt_succ_self 2)]
    | _ => cases hbranch
  rw [Format.storedOffset, hbits, Format.storedOffset]

theorem size_pos (format : Format) : 0 < format.size := by
  cases format <;> decide

/-- Only the units of the instruction have an influence, wherever they are. -/
theorem decodeAt_congr (hstarts : StartsAt opcode code address) {other : List CodeUnit}
    {place : Nat} (hsame : (other.drop place).take opcode.size =
      (code.drop address).take opcode.size) :
    decodeAt other place = decodeAt code address := by
  have hlength := congrArg List.length hsame
  have hfits := hstarts.fits
  have hpositive : 0 < opcode.size := size_pos opcode.format
  rw [List.length_take, List.length_take, List.length_drop, List.length_drop] at hlength
  have hfirst : other.getD place 0 = code.getD address 0 := by
    have hunit := congrArg (List.getD · 0 0) hsame
    simp only [getD_take hpositive] at hunit
    rw [drop_eq_cons hstarts.inside, drop_eq_cons (by omega)] at hunit
    exact hunit
  have hother : StartsAt opcode other place :=
    ⟨by omega, hfirst ▸ hstarts.found, hstarts.branch, by omega⟩
  obtain ⟨branch, hdecode, hheld⟩ := exists_decodeAt hstarts
  obtain ⟨found, hfound, hfoundHeld⟩ := exists_decodeAt hother
  have hoffset : opcode.format.storedOffset (other.drop place) =
      opcode.format.storedOffset (code.drop address) := by
    calc opcode.format.storedOffset (other.drop place) =
          opcode.format.storedOffset ((other.drop place).take opcode.size) :=
            (storedOffset_take hstarts.branch _).symm
      _ = opcode.format.storedOffset ((code.drop address).take opcode.size) := by rw [hsame]
      _ = opcode.format.storedOffset (code.drop address) := storedOffset_take hstarts.branch _
  have hagain : found.IsHeld opcode.format (code.drop address) :=
    ⟨hfoundHeld.offset.trans hoffset, hfoundHeld.conditional⟩
  rw [hdecode, hfound, hagain.unique hheld]

end Anywhere

/-! ## Written branches -/

section Written

variable {opcode : Opcode}

theorem valueOf_ofNat (value high : UInt8) :
    Opcode.valueOf (UInt16.ofNat (value.toNat + 0x100 * high.toNat)) = value := by
  apply UInt8.toNat_inj.mp
  have hvalue := value.toNat_lt
  have hhigh := high.toNat_lt
  rw [Opcode.valueOf, UInt16.toNat_toUInt8, UInt16.toNat_ofNat']
  omega

theorem encode_eq_cons (hbranch : opcode.format.isBranch = true) (operand : UInt8)
    (offset : Int) :
    ∃ unit operands, encode opcode operand offset = unit :: operands ∧
      Opcode.valueOf unit = opcode.value ∧ (unit :: operands).length = opcode.size := by
  obtain ⟨value, mnemonic, format⟩ := opcode
  cases format with
  | f10t | f20t | f21t | f22t | f30t => exact ⟨_, _, rfl, valueOf_ofNat _ _, rfl⟩
  | _ => cases hbranch

/-- The lowest bits of a number that they can hold, with the sign extended. -/
theorem bmod_emod {offset : Int} {bits : Nat} (hbits : 0 < bits)
    (hlow : -2 ^ (bits - 1) ≤ offset) (hhigh : offset < 2 ^ (bits - 1)) :
    Int.bmod ((offset % 2 ^ bits).toNat : Nat) (2 ^ bits) = offset := by
  obtain ⟨bits, rfl⟩ := Nat.exists_eq_succ_of_ne_zero hbits.ne'
  rw [Nat.succ_sub_one] at hlow hhigh
  have hmodulus : (2 : Int) ^ (bits + 1) = ((2 ^ (bits + 1) : Nat) : Int) := by push_cast; rfl
  rw [Int.toNat_of_nonneg (Int.emod_nonneg _ (by positivity)), hmodulus, Int.emod_bmod]
  apply Int.bmod_eq_of_le_mul_two
  · rw [Nat.pow_succ]
    push_cast
    omega
  · rw [Nat.pow_succ]
    push_cast
    omega

theorem offsetBits_pos (format : Format) : 0 < format.offsetBits := by
  cases format <;> decide

theorem toNat_ofInt8 (value : Int) : (UInt8.ofInt value).toNat = (value % 2 ^ 8).toNat := by
  rw [UInt8.ofInt, UInt8.toNat_ofNat_of_lt']
  have hlt := Int.emod_lt_of_pos value (b := 2 ^ 8) (by decide)
  change _ < 256
  omega

theorem toNat_ofInt16 (value : Int) : (UInt16.ofInt value).toNat = (value % 2 ^ 16).toNat := by
  rw [UInt16.ofInt, UInt16.toNat_ofNat_of_lt']
  have hlt := Int.emod_lt_of_pos value (b := 2 ^ 16) (by decide)
  change _ < 65536
  omega

/-- A branch stores the low bits of its offset. -/
theorem storedBits_encode (hbranch : opcode.format.isBranch = true) (operand : UInt8)
    (offset : Int) (more : List CodeUnit) :
    opcode.format.storedBits (encode opcode operand offset ++ more) =
      (offset % 2 ^ opcode.format.offsetBits).toNat := by
  obtain ⟨value, mnemonic, format⟩ := opcode
  cases format with
  | f10t =>
      have hbyte : (UInt8.ofInt offset).toNat = (offset % 2 ^ 8).toNat := toNat_ofInt8 offset
      have hvalue := value.toNat_lt
      have hhigh := (UInt8.ofInt offset).toNat_lt
      change (UInt16.ofNat (value.toNat + 0x100 * (UInt8.ofInt offset).toNat)).toNat / 0x100 =
        (offset % 2 ^ 8).toNat
      rw [UInt16.toNat_ofNat', ← hbyte]
      omega
  | f20t | f21t | f22t => exact toNat_ofInt16 offset
  | f30t =>
      change (UInt16.ofInt offset).toNat + 0x10000 * (UInt16.ofInt (offset / 0x10000)).toNat =
        (offset % 2 ^ 32).toNat
      rw [toNat_ofInt16, toNat_ofInt16]
      omega
  | _ => cases hbranch

/-- The offset that is written is the one stored. -/
theorem storedOffset_encode (hbranch : opcode.format.isBranch = true) (operand : UInt8)
    {offset : Int} (hstores : opcode.format.Stores offset) (more : List CodeUnit) :
    opcode.format.storedOffset (encode opcode operand offset ++ more) = offset := by
  rw [Format.storedOffset, storedBits_encode hbranch]
  exact bmod_emod (offsetBits_pos _) hstores.1 hstores.2

/-- The decoder reads back every offset that can be stored. -/
theorem decodeAt_encode (hmem : opcode ∈ Opcode.table) (hbranch : opcode.format.isBranch = true)
    (operand : UInt8) {offset : Int} (hstores : opcode.format.Stores offset)
    (before after : List CodeUnit) :
    ∃ branch, decodeAt (before ++ encode opcode operand offset ++ after) before.length =
        some branch ∧ branch.offset.toInt = offset := by
  obtain ⟨unit, operands, hencode, hvalue, hlength⟩ := encode_eq_cons hbranch operand offset
  have hdrop : (before ++ encode opcode operand offset ++ after).drop before.length =
      encode opcode operand offset ++ after := by
    rw [List.append_assoc, List.drop_left]
  have hfound : Opcode.ofUnit unit = some opcode := by
    rw [Opcode.ofUnit, hvalue, Opcode.lookup_of_mem hmem]
  have hstarts : StartsAt opcode (before ++ encode opcode operand offset ++ after)
      before.length := by
    rw [hencode, List.append_assoc]
    have hsize := size_pos opcode.format
    constructor
    · simp
    · rw [List.getD_append_right _ _ _ _ (Nat.le_refl _), Nat.sub_self]
      exact hfound
    · exact hbranch
    · rw [List.length_append, List.length_append, hlength]
      omega
  obtain ⟨branch, hdecode, hheld⟩ := exists_decodeAt hstarts
  refine ⟨branch, hdecode, ?_⟩
  rw [hheld.offset, hdrop, storedOffset_encode hbranch operand hstores]

end Written

/-! ## Branches of a method -/

/-- Code that is split into instructions has room for each of its branches. -/
theorem startsAt_of_chain {code : List CodeUnit} {extents : List (Nat × Nat)}
    {address width : Nat} {opcode : Opcode}
    (hchain : Tiles (Prepass.IsInstruction dalvikWidth code) 0 extents code.length)
    (hmem : (address, width) ∈ extents)
    (hfound : Opcode.ofUnit (code.getD address 0) = some opcode)
    (hbranch : opcode.format.isBranch = true) : StartsAt opcode code address := by
  obtain ⟨-, -, hend, hinside, hwidth, -⟩ := hchain.of_mem hmem
  have hpayload : Payload.ofUnit (code.getD address 0) = none := by
    cases hfirst : Payload.ofUnit (code.getD address 0) with
    | none => rfl
    | some payload =>
        have hnop := (Payload.opcode_of_ofUnit hfirst).symm.trans hfound
        rw [← Option.some.inj hnop] at hbranch
        cases hbranch
  rw [drop_eq_cons hinside, dalvikWidth_of_opcode hpayload hfound] at hwidth
  exact ⟨hinside, hfound, hbranch, hwidth ▸ hend⟩

/-- At an instruction of the chain the table alone decides. -/
theorem isSome_decodeAt_of_chain {code : List CodeUnit} {extents : List (Nat × Nat)}
    {address width : Nat}
    (hchain : Tiles (Prepass.IsInstruction dalvikWidth code) 0 extents code.length)
    (hmem : (address, width) ∈ extents) :
    (decodeAt code address).isSome = true ↔
      ∃ opcode, Opcode.ofUnit (code.getD address 0) = some opcode ∧
        opcode.format.isBranch = true := by
  rw [isSome_decodeAt_iff]
  constructor
  · rintro ⟨opcode, hstarts⟩
    exact ⟨opcode, hstarts.found, hstarts.branch⟩
  · rintro ⟨opcode, hfound, hbranch⟩
    exact ⟨opcode, startsAt_of_chain hchain hmem hfound hbranch⟩

theorem absolute_eq_some_iff {branch : Branch} {address target : Nat} :
    branch.absolute address = some target ↔ (address : Int) + branch.offset.toInt = target :=
  Int.mem_toNat?

/-- A sum in 64 bits does not wrap around. -/
theorem toInt_add_offset {branch : Branch} {address : Nat} (haddress : address < 2 ^ 62) :
    (Int64.ofNat address + branch.offset.toInt64).toInt =
      (address : Int) + branch.offset.toInt := by
  have hlow := branch.offset.le_toInt
  have hhigh := branch.offset.toInt_lt
  rw [Int64.toInt_add, Int64.toInt_ofNat_of_lt (by omega), Int32.toInt_toInt64]
  apply Int.bmod_eq_of_le_mul_two
  · push_cast
    omega
  · push_cast
    omega

/-- The decoder finds the branches of the table in the code, with what their
units hold, and looks at nothing else. -/
structure FollowsTable (code : List CodeUnit) : Prop where
  isSome : ∀ address, (decodeAt code address).isSome = true ↔
    ∃ opcode, StartsAt opcode code address
  isHeld : ∀ address opcode branch, StartsAt opcode code address →
    decodeAt code address = some branch → branch.IsHeld opcode.format (code.drop address)
  confined : ∀ address opcode, StartsAt opcode code address → ∀ other place,
    (other.drop place).take opcode.size = (code.drop address).take opcode.size →
      decodeAt other place = decodeAt code address

/-- The decoder goes by the table in all code, reads back every branch that can
be written, and finds the branches of a method whose widths are recorded just
where instructions with a branch format start.  A target is an address unless it
lies in front of the code, and 64 bits are enough to compute it. -/
theorem decodeAt_followsTable :
    (∀ code, FollowsTable code) ∧
      (∀ opcode ∈ Opcode.table, opcode.format.isBranch = true →
        ∀ operand offset, opcode.format.Stores offset → ∀ before after,
          ∃ branch, decodeAt (before ++ encode opcode operand offset ++ after) before.length =
            some branch ∧ branch.offset.toInt = offset) ∧
      (∀ method sink record result, Prepass.freshWidths method sink record = .ok result →
        ∀ address, result.annotations.isStart address = true →
          ((decodeAt method.code address).isSome = true ↔
            ∃ opcode, Opcode.ofUnit (method.code.getD address 0) = some opcode ∧
              opcode.format.isBranch = true)) ∧
      ∀ (branch : Branch) (address : Nat), address < 2 ^ 62 →
        (Int64.ofNat address + branch.offset.toInt64).toInt =
            (address : Int) + branch.offset.toInt ∧
          (∀ target : Nat, branch.absolute address = some target ↔
            (address : Int) + branch.offset.toInt = target) ∧
          ((branch.absolute address).isSome = true ↔
            0 ≤ (address : Int) + branch.offset.toInt) := by
  refine ⟨?_, ?_, ?_, ?_⟩
  · intro code
    exact ⟨fun _ => isSome_decodeAt_iff, fun _ _ _ => isHeld_of_decodeAt,
      fun _ _ hstarts _ _ => decodeAt_congr hstarts⟩
  · intro opcode hmem hbranch operand offset hstores before after
    exact decodeAt_encode hmem hbranch operand hstores before after
  · intro method sink record result hresult address hstart
    rw [Prepass.freshWidths_eq] at hresult
    obtain ⟨extents, hchain, hholds, -⟩ := Prepass.exists_chain_of_scan hresult
    obtain ⟨width, hmem⟩ := Annotations.isStart_iff.mp hstart
    rw [hholds.recorded.starts_of_blank hchain] at hmem
    exact isSome_decodeAt_of_chain hchain hmem
  · intro branch address haddress
    refine ⟨toInt_add_offset haddress, fun _ => absolute_eq_some_iff, ?_⟩
    rw [Option.isSome_iff_exists]
    constructor
    · rintro ⟨target, htarget⟩
      rw [absolute_eq_some_iff.mp htarget]
      exact Int.natCast_nonneg target
    · intro hsum
      exact ⟨_, absolute_eq_some_iff.mpr (Int.toNat_of_nonneg hsum).symm⟩

/-- An allocation, and a `goto/32` back to it. -/
def allocationLoop : MethodCode :=
  ⟨[0x0022, 0x0000, 0x002a, 0xfffe, 0xffff], [], [], none⟩

theorem decodeAt_followsTable_allocationLoop :
    Prepass.freshWidths allocationLoop .recorder [] = .ok ⟨⟨#[2, 0, 3, 0, 0]⟩, 1⟩ ∧
      (decodeAt allocationLoop.code 0).isSome = false ∧
      (decodeAt allocationLoop.code 2).isSome = true ∧
      (∃ branch, decodeAt ([0x0022, 0x0000] ++ encode ⟨0x2a, "goto/32", .f30t⟩ 0 (-2) ++ []) 2 =
        some branch ∧ branch.offset.toInt = -2) ∧
      absolute ⟨-2, false⟩ 2 = some 0 := by
  obtain ⟨-, hencoded, hmethods, htargets⟩ := decodeAt_followsTable
  have hwidths : Prepass.freshWidths allocationLoop .recorder [] =
      .ok ⟨⟨#[2, 0, 3, 0, 0]⟩, 1⟩ := by
    rw [Prepass.freshWidths_eq]
    cbv
  have hgoto : Opcode.lookup 0x2a = some ⟨0x2a, "goto/32", .f30t⟩ := rfl
  have hnewInstance : Opcode.lookup 0x22 = some ⟨0x22, "new-instance", .f21c⟩ := rfl
  have hfirst := hmethods _ _ _ _ hwidths 0 rfl
  have hsecond := hmethods _ _ _ _ hwidths 2 rfl
  refine ⟨hwidths, ?_, hsecond.mpr ⟨_, hgoto, rfl⟩, ?_, ?_⟩
  · rw [Bool.eq_false_iff, Ne, hfirst]
    rintro ⟨opcode, hfound, hbranch⟩
    rw [← Option.some.inj (hnewInstance.symm.trans hfound)] at hbranch
    cases hbranch
  · exact hencoded _ (Opcode.mem_of_lookup hgoto).1 rfl 0 (-2) ⟨by decide, by decide⟩ _ []
  · exact ((htargets ⟨-2, false⟩ 2 (by decide)).2.1 0).mpr rfl

end Branch

end DalvikPrepass
