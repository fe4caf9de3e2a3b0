import Mathlib
import DalvikPrepass.Instruction.Width

/-!
# Looking up opcodes

The values in the opcode table ascend, so each of them is found with the entry
that has it.  What holds of every entry is checked by going through the table
once.  Payloads begin with the opcode value of `nop`.
-/

namespace DalvikPrepass

namespace Opcode

theorem table_ascending : table.Pairwise fun left right => left.value < right.value := by
  have htrans : IsTrans Opcode fun left right => left.value < right.value :=
    ⟨fun _ _ _ => UInt8.lt_trans⟩
  rw [← List.isChain_iff_pairwise]
  decide +kernel

theorem mem_of_lookup {value : UInt8} {opcode : Opcode} (hlookup : lookup value = some opcode) :
    opcode ∈ table ∧ opcode.value = value := by
  refine ⟨List.mem_of_find?_eq_some hlookup, ?_⟩
  simpa using List.find?_some hlookup

/-- No two entries have the same value, so a lookup finds any entry by its
own. -/
theorem lookup_of_mem {opcode : Opcode} (hmem : opcode ∈ table) :
    lookup opcode.value = some opcode := by
  obtain ⟨earlier, later, hsplit⟩ := List.append_of_mem hmem
  have hascending := table_ascending
  rw [hsplit, List.pairwise_append] at hascending
  have hearlier : earlier.find? (fun other => other.value == opcode.value) = none := by
    rw [List.find?_eq_none]
    intro other hother hsame
    have hlt := hascending.2.2 other hother opcode List.mem_cons_self
    exact UInt8.ne_of_lt hlt (beq_iff_eq.mp hsame)
  rw [lookup, hsplit, List.find?_append, hearlier, Option.none_or, List.find?_cons_of_pos]
  exact BEq.refl opcode.value

/-- An opcode that is found is in the table. -/
theorem mem_of_ofUnit {unit : CodeUnit} {opcode : Opcode} (hunit : ofUnit unit = some opcode) :
    opcode ∈ table ∧ opcode.value = valueOf unit :=
  mem_of_lookup hunit

/-! ## Mnemonics -/

/-- A byte of the text stands for each of its ASCII characters. -/
theorem byte_mem_of_char_mem {text : String} {char : Char} (hmem : char ∈ text.toList)
    (hascii : char.toNat < 128) : char.val.toUInt8 ∈ text.toByteArray.data.toList := by
  have hsize : char.utf8Size = 1 := by
    rw [Char.utf8Size_eq_one_iff, UInt32.le_iff_toNat_le]
    exact Nat.le_of_lt_succ hascii
  have hbytes : text.toByteArray.data.toList = text.toList.flatMap String.utf8EncodeChar := by
    rw [← String.utf8Encode_toList, List.utf8Encode]
    simp
  rw [hbytes, List.mem_flatMap]
  refine ⟨char, hmem, ?_⟩
  rw [String.utf8EncodeChar_eq_singleton hsize]
  exact List.mem_singleton_self _

/-- No mnemonic has a blank or a control character in it.  The bytes are gone
through here, since to decode them all would take long. -/
theorem blank_lt_of_mem_mnemonic {opcode : Opcode} (hopcode : opcode ∈ table) {char : Char}
    (hchar : char ∈ opcode.mnemonic.toList) : ' ' < char := by
  have htable : ∀ opcode ∈ table,
      (opcode.mnemonic.toByteArray.data.toList.all fun byte => 32 < byte) = true := by
    decide +kernel
  by_contra hlow
  have hle : char.toNat ≤ 32 := Char.le_def.mp (not_lt.mp hlow)
  have hbyte := List.all_eq_true.mp (htable opcode hopcode) _
    (byte_mem_of_char_mem hchar (by omega))
  rw [decide_eq_true_eq, UInt8.lt_iff_toNat_lt, UInt32.toNat_toUInt8] at hbyte
  change 32 < char.toNat % 256 at hbyte
  omega

theorem mnemonic_ne_unknown {opcode : Opcode} (hopcode : opcode ∈ table) :
    opcode.mnemonic ≠ "<unknown>" := by
  have htable : ∀ opcode ∈ table, opcode.mnemonic ≠ "<unknown>" := by
    decide +kernel
  exact htable opcode hopcode

/-- The name of the allocation is its own. -/
theorem mnemonic_eq_newInstance_iff {opcode : Opcode} (hopcode : opcode ∈ table) :
    opcode.mnemonic = "new-instance" ↔ opcode.value = newInstance := by
  have htable : ∀ opcode ∈ table,
      opcode.mnemonic = "new-instance" ↔ opcode.value = newInstance := by
    decide +kernel
  exact htable opcode hopcode

end Opcode

namespace Payload

theorem signature_of_ofUnit {unit : CodeUnit} {payload : Payload}
    (hunit : ofUnit unit = some payload) : unit = payload.signature := by
  have hsignature := List.find?_some hunit
  exact (beq_iff_eq.mp hsignature).symm

/-- By the table alone a payload would be a `nop`. -/
theorem opcode_of_ofUnit {unit : CodeUnit} {payload : Payload}
    (hunit : ofUnit unit = some payload) : Opcode.ofUnit unit = some ⟨0, "nop", .f10x⟩ := by
  rw [signature_of_ofUnit hunit]
  cases payload <;> rfl

end Payload

section Widths

variable {unit : CodeUnit} {units : List CodeUnit}

theorem dalvikWidth_of_opcode {opcode : Opcode} (hpayload : Payload.ofUnit unit = none)
    (hunit : Opcode.ofUnit unit = some opcode) : dalvikWidth (unit :: units) = opcode.size := by
  simp only [dalvikWidth, payloadWidth, hpayload, hunit, Option.map_none, List.head?_cons,
    Option.bind_some, Option.map_some, Option.getD_some]

/-- What has a width is a payload or has an opcode. -/
theorem exists_payload_or_opcode (hwidth : dalvikWidth (unit :: units) ≠ 0) :
    (∃ payload, Payload.ofUnit unit = some payload) ∨
      Payload.ofUnit unit = none ∧ ∃ opcode, Opcode.ofUnit unit = some opcode := by
  cases hpayload : Payload.ofUnit unit with
  | some payload => exact .inl ⟨payload, rfl⟩
  | none =>
      refine .inr ⟨rfl, ?_⟩
      cases hunit : Opcode.ofUnit unit with
      | some opcode => exact ⟨opcode, rfl⟩
      | none => simp [dalvikWidth, payloadWidth, hpayload, hunit] at hwidth

end Widths

end DalvikPrepass
