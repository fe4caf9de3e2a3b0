import Mathlib
import DalvikPrepass.CodeItem.Parse
import DalvikPrepass.Proofs.HandlerGrammar

/-!
# The grammar of code items

The layout of a code item as a relation between bytes and the item they write.
The parser accepts exactly the data that begin with such bytes.  It follows that
whatever it accepts has a whole handler list, or no try ranges at all.
-/

namespace DalvikPrepass

open Bytes

namespace TryItem

/-- A start in four bytes and a count and a handler offset in two bytes each. -/
def Encodes (bytes : Bytes) (item : TryItem) : Prop :=
  ∃ start count handlerOffset, bytes = start ++ count ++ handlerOffset ∧
    IsWord 4 start item.start.toNat ∧ IsWord 2 count item.count.toNat ∧
    IsWord 2 handlerOffset item.handlerOffset.toNat

end TryItem

namespace CodeItem

/-- The sixteen bytes in front of the code.  They hold the numbers of try ranges
and of code units. -/
def EncodesHeader (bytes : Bytes) (item : CodeItem) : Prop :=
  ∃ registers ins outs tryCount debugInfoOffset unitCount,
    bytes = registers ++ ins ++ outs ++ tryCount ++ debugInfoOffset ++ unitCount ∧
    IsWord 2 registers item.registers.toNat ∧ IsWord 2 ins item.ins.toNat ∧
    IsWord 2 outs item.outs.toNat ∧ IsWord 2 tryCount item.tries.length ∧
    IsWord 4 debugInfoOffset item.debugInfoOffset.toNat ∧
    IsWord 4 unitCount item.code.length

/-- What follows `unitCount` code units: nothing if there are no try ranges, and
otherwise two bytes of any kind if the number of units is odd, the ranges, and
a handler list to its end. -/
inductive EncodesTable (unitCount : Nat) : Bytes → List TryItem → Bytes → Prop
  | absent : EncodesTable unitCount [] [] []
  | present {padding raw handlers : Bytes} {tries : List TryItem} {groups : List (List Handler)}
      (htries : tries ≠ [])
      (hpadding : padding.length = if unitCount % 2 = 0 then 0 else 2)
      (hraw : Sequence TryItem.Encodes raw tries)
      (hhandlers : HandlerList.Encodes handlers groups) :
      EncodesTable unitCount (padding ++ raw ++ handlers) tries handlers

/-- A header, the code in two bytes for each unit, and the exception table. -/
inductive Encodes : Bytes → CodeItem → Prop
  | intro {front units table : Bytes} {item : CodeItem}
      (hfront : EncodesHeader front item)
      (hunits : Sequence (fun bytes unit => IsWord 2 bytes unit.toNat) units item.code)
      (htable : EncodesTable item.code.length table item.tries item.handlers) :
      Encodes (front ++ units ++ table) item

/-- Where there are try ranges the handlers are one list to its end, and
otherwise they are absent. -/
def WholeHandlers (item : CodeItem) : Prop :=
  if item.tries = [] then item.handlers = []
  else ∃ groups, HandlerList.Encodes item.handlers groups

end CodeItem

/-! ## Words at fixed offsets -/

namespace Bytes

/-- The `size` bytes of a record from `offset` on. -/
def field (offset size : Nat) (bytes : Bytes) : Bytes :=
  (bytes.drop offset).take size

/-- Fields that lie side by side make up one field. -/
theorem field_append_field (offset left right : Nat) (bytes : Bytes) :
    field offset left bytes ++ field (offset + left) right bytes =
      field offset (left + right) bytes := by
  rw [field, field, field, List.take_add, List.drop_drop]

theorem field_zero_append {first : Bytes} {size : Nat} (rest : Bytes)
    (hlength : first.length = size) : field 0 size (first ++ rest) = first := by
  rw [field, List.drop_zero, List.take_left' hlength]

/-- A two-byte field holds what is read at its offset. -/
theorem isWord_field16 {offset : Nat} {bytes : Bytes} (hlength : offset + 2 ≤ bytes.length) :
    IsWord 2 (field offset 2 bytes) (word16 (bytes.drop offset)).toNat := by
  have hfield : (field offset 2 bytes).length = 2 := by
    rw [field, List.length_take, List.length_drop]
    omega
  refine ⟨hfield, ?_⟩
  rw [← word16_append ((bytes.drop offset).drop 2) hfield, field, List.take_append_drop]

/-- A four-byte field holds what is read at its offset. -/
theorem isWord_field32 {offset : Nat} {bytes : Bytes} (hlength : offset + 4 ≤ bytes.length) :
    IsWord 4 (field offset 4 bytes) (word32 (bytes.drop offset)).toNat := by
  have hfield : (field offset 4 bytes).length = 4 := by
    rw [field, List.length_take, List.length_drop]
    omega
  refine ⟨hfield, ?_⟩
  rw [← word32_append ((bytes.drop offset).drop 4) hfield, field, List.take_append_drop]

theorem word16_drop {offset value : Nat} {word : Bytes} (before rest : Bytes)
    (hbefore : before.length = offset) (hword : IsWord 2 word value) :
    (word16 ((before ++ (word ++ rest)).drop offset)).toNat = value := by
  rw [List.drop_left' hbefore, word16_append rest hword.1]
  exact hword.2

theorem word32_drop {offset value : Nat} {word : Bytes} (before rest : Bytes)
    (hbefore : before.length = offset) (hword : IsWord 4 word value) :
    (word32 ((before ++ (word ++ rest)).drop offset)).toNat = value := by
  rw [List.drop_left' hbefore, word32_append rest hword.1]
  exact hword.2

end Bytes

namespace TryItem

/-- A record of the table of try ranges is eight bytes that are read as one
range. -/
theorem readsRecord : ReadsRecord encodedSize ofBytes Encodes where
  encodes first rest hlength := by
    have hsize : first.length = 8 := hlength
    have hrange : 8 ≤ (first ++ rest).length := by
      rw [List.length_append]
      omega
    refine ⟨field 0 4 (first ++ rest), field 4 2 (first ++ rest), field 6 2 (first ++ rest),
      ?_, ?_, ?_, ?_⟩
    · rw [field_append_field, field_append_field, field_zero_append rest hsize]
    · exact isWord_field32 (by omega)
    · rw [ofBytes, UInt16.toNat_toUInt32]
      exact isWord_field16 (by omega)
    · rw [ofBytes, UInt16.toNat_toUInt32]
      exact isWord_field16 (by omega)
  unique rest hencodes := by
    obtain ⟨start, count, handlerOffset, rfl, hstart, hcount, hoffset⟩ := hencodes
    refine ⟨by simp [hstart.1, hcount.1, hoffset.1, encodedSize], ?_⟩
    simp only [List.append_assoc]
    rw [ofBytes, TryItem.mk.injEq]
    refine ⟨UInt32.toNat_inj.mp ?_, UInt32.toNat_inj.mp ?_, UInt32.toNat_inj.mp ?_⟩
    · rw [word32_append _ hstart.1]
      exact hstart.2
    · rw [UInt16.toNat_toUInt32]
      exact word16_drop start _ hstart.1 hcount
    · have hbefore : (start ++ count).length = 6 := by simp [hstart.1, hcount.1]
      rw [UInt16.toNat_toUInt32, ← List.append_assoc start]
      exact word16_drop (start ++ count) _ hbefore hoffset

end TryItem

theorem readsRecord_word16 :
    ReadsRecord 2 word16 fun bytes unit => IsWord 2 bytes unit.toNat where
  encodes first rest hlength := ⟨hlength, (word16_append rest hlength).symm⟩
  unique rest hword := by
    refine ⟨hword.1, UInt16.toNat_inj.mp ?_⟩
    rw [word16_append rest hword.1]
    exact hword.2

namespace CodeItem

/-- The header is the one of this item. -/
structure Header.Describes (header : Header) (item : CodeItem) : Prop where
  registers : header.registers = item.registers
  ins : header.ins = item.ins
  outs : header.outs = item.outs
  tryCount : header.tryCount.toNat = item.tries.length
  debugInfoOffset : header.debugInfoOffset = item.debugInfoOffset
  unitCount : header.unitCount.toNat = item.code.length

/-- A header that is written as the grammar says is read back as the item's. -/
theorem describes_of_encodesHeader {bytes : Bytes} {item : CodeItem}
    (hheader : EncodesHeader bytes item) : (Header.ofBytes bytes).Describes item := by
  obtain ⟨registers, ins, outs, tryCount, debugInfoOffset, unitCount, rfl, hregisters, hins,
    houts, htryCount, hdebugInfoOffset, hunitCount⟩ := hheader
  have htwo : (registers ++ ins).length = 4 := by
    rw [List.length_append, hregisters.1, hins.1]
  have hthree : (registers ++ ins ++ outs).length = 6 := by
    rw [List.length_append, htwo, houts.1]
  have hfour : (registers ++ ins ++ outs ++ tryCount).length = 8 := by
    rw [List.length_append, hthree, htryCount.1]
  have hfive : (registers ++ ins ++ outs ++ tryCount ++ debugInfoOffset).length = 12 := by
    rw [List.length_append, hfour, hdebugInfoOffset.1]
  constructor
  · apply UInt16.toNat_inj.mp
    simp only [Header.ofBytes, List.append_assoc]
    rw [word16_append _ hregisters.1]
    exact hregisters.2
  · apply UInt16.toNat_inj.mp
    simp only [Header.ofBytes, List.append_assoc]
    exact word16_drop registers _ hregisters.1 hins
  · apply UInt16.toNat_inj.mp
    have hword := word16_drop _ (tryCount ++ (debugInfoOffset ++ unitCount)) htwo houts
    simpa only [Header.ofBytes, List.append_assoc] using hword
  · have hword := word16_drop _ (debugInfoOffset ++ unitCount) hthree htryCount
    simpa only [Header.ofBytes, List.append_assoc] using hword
  · apply UInt32.toNat_inj.mp
    have hword := word32_drop _ unitCount hfour hdebugInfoOffset
    simpa only [Header.ofBytes, List.append_assoc] using hword
  · have hword := word32_drop _ [] hfive hunitCount
    simpa only [Header.ofBytes, List.append_assoc, List.append_nil] using hword

theorem EncodesHeader.length_eq {bytes : Bytes} {item : CodeItem}
    (hheader : EncodesHeader bytes item) : bytes.length = Header.encodedSize := by
  obtain ⟨registers, ins, outs, tryCount, debugInfoOffset, unitCount, rfl, hregisters, hins,
    houts, htryCount, hdebugInfoOffset, hunitCount⟩ := hheader
  simp only [List.length_append, hregisters.1, hins.1, houts.1, htryCount.1, hdebugInfoOffset.1,
    hunitCount.1, Header.encodedSize]

/-- Any sixteen bytes are a header of the items that they describe. -/
theorem encodesHeader_of_describes {bytes : Bytes} {item : CodeItem}
    (hlength : bytes.length = Header.encodedSize)
    (hdescribes : (Header.ofBytes bytes).Describes item) : EncodesHeader bytes item := by
  have hsize : bytes.length = 16 := hlength
  refine ⟨field 0 2 bytes, field 2 2 bytes, field 4 2 bytes, field 6 2 bytes, field 8 4 bytes,
    field 12 4 bytes, ?_, ?_, ?_, ?_, ?_, ?_, ?_⟩
  · rw [field_append_field, field_append_field, field_append_field, field_append_field,
      field_append_field, field, List.drop_zero, List.take_of_length_le (by omega)]
  · rw [← hdescribes.registers]
    exact isWord_field16 (by omega)
  · rw [← hdescribes.ins]
    exact isWord_field16 (by omega)
  · rw [← hdescribes.outs]
    exact isWord_field16 (by omega)
  · rw [← hdescribes.tryCount]
    exact isWord_field16 (by omega)
  · rw [← hdescribes.debugInfoOffset]
    exact isWord_field32 (by omega)
  · rw [← hdescribes.unitCount]
    exact isWord_field32 (by omega)

/-- The header counts the try ranges in two bytes. -/
theorem EncodesHeader.length_tries_lt {bytes : Bytes} {item : CodeItem}
    (hheader : EncodesHeader bytes item) : item.tries.length < 2 ^ 16 := by
  rw [← (describes_of_encodesHeader hheader).tryCount]
  exact UInt16.toNat_lt _

/-! ## The parser -/

/-- Behind an odd number of code units there are two bytes of any value. -/
theorem skipPadding_eq_ok_iff {unitCount : Nat} {cursor after : Cursor} :
    skipPadding unitCount cursor = .ok after ↔
      ∃ padding : Bytes, padding.length = (if unitCount % 2 = 0 then 0 else 2) ∧
        cursor.Passes padding after := by
  rw [skipPadding]
  by_cases heven : unitCount % 2 = 0
  · rw [if_pos heven, if_pos heven]
    constructor
    · intro hskip
      obtain rfl : cursor = after := Except.ok.inj hskip
      exact ⟨[], rfl, .refl cursor⟩
    · intro ⟨padding, hlength, hpasses⟩
      obtain rfl : padding = [] := List.length_eq_zero_iff.mp hlength
      rw [hpasses.eq_skip]
      rfl
  · rw [if_neg heven, if_neg heven, bind_eq_ok_iff]
    constructor
    · intro ⟨⟨padding, last⟩, htake, hlast⟩
      obtain rfl : last = after := Except.ok.inj hlast
      exact ⟨padding, Cursor.take_eq_ok_iff.mp htake⟩
    · intro ⟨padding, hpadding⟩
      exact ⟨(padding, after), Cursor.take_eq_ok_iff.mpr hpadding, rfl⟩

/-- The part of the parser after the code. -/
def parseTable (header : Header) (cursor : Cursor) : Except ReadError (List TryItem × Bytes) :=
  if header.tryCount = 0 then .ok ([], []) else parseTries header cursor

/-- What is read behind the code of an item that has try ranges. -/
theorem parseTries_eq_ok_iff {header : Header} {cursor : Cursor} {tries : List TryItem}
    {handlers : Bytes} :
    parseTries header cursor = .ok (tries, handlers) ↔
      ∃ padding raw groups after,
        padding.length = (if header.unitCount.toNat % 2 = 0 then 0 else 2) ∧
        Sequence TryItem.Encodes raw tries ∧ tries.length = header.tryCount.toNat ∧
        HandlerList.Encodes handlers groups ∧ cursor.Passes (padding ++ raw ++ handlers) after := by
  rw [parseTries]
  simp only [bind_eq_ok_iff, Prod.exists, skipPadding_eq_ok_iff, Cursor.take_eq_ok_iff,
    HandlerList.extent_eq_ok_iff]
  constructor
  · rintro ⟨first, ⟨padding, hpadding, hleft⟩, raw, second, ⟨hraw, hmiddle⟩, _,
      ⟨bytes, groups, hbegins, hgroups, rfl⟩, hresult⟩
    obtain ⟨rest, hrest⟩ := hbegins
    have htaken : second.rest.take bytes.length = bytes := by rw [← hrest, List.take_left]
    simp only [pure, Except.pure, htaken, Except.ok.injEq, Prod.mk.injEq] at hresult
    obtain ⟨rfl, rfl⟩ := hresult
    have hright := Cursor.passes_skip hrest.symm
    exact ⟨padding, raw, groups, _, hpadding, sequence_records TryItem.readsRecord hraw,
      length_records _ _, hgroups, (hleft.trans hmiddle).trans hright⟩
  · intro ⟨padding, raw, groups, after, hpadding, hraw, hcount, hgroups, hpasses⟩
    obtain ⟨second, hfront, hright⟩ := Cursor.passes_append.mp hpasses
    obtain ⟨first, hleft, hmiddle⟩ := Cursor.passes_append.mp hfront
    obtain ⟨hlength, hrecords⟩ := (sequence_iff_records TryItem.readsRecord raw tries).mp hraw
    refine ⟨first, ⟨padding, hpadding, hleft⟩, raw, second, ⟨?_, hmiddle⟩, handlers.length,
      ⟨handlers, groups, ⟨after.rest, hright.1.symm⟩, hgroups, rfl⟩, ?_⟩
    · rw [hlength, hcount]
    · rw [← hcount, hrecords, hright.1, List.take_left]
      rfl

/-- The table of try ranges with its handler list is read just where the grammar
has it. -/
theorem parseTable_eq_ok_iff {header : Header} {cursor : Cursor} {tries : List TryItem}
    {handlers : Bytes} :
    parseTable header cursor = .ok (tries, handlers) ↔
      ∃ bytes after, EncodesTable header.unitCount.toNat bytes tries handlers ∧
        tries.length = header.tryCount.toNat ∧ cursor.Passes bytes after := by
  rw [parseTable]
  by_cases hzero : header.tryCount = 0
  · rw [if_pos hzero, hzero]
    constructor
    · intro hnone
      simp only [Except.ok.injEq, Prod.mk.injEq] at hnone
      obtain ⟨rfl, rfl⟩ := hnone
      exact ⟨[], cursor, .absent, rfl, .refl cursor⟩
    · rintro ⟨bytes, after, htable, hcount, -⟩
      cases htable with
      | absent => rfl
      | present htries => exact absurd (List.length_eq_zero_iff.mp hcount) htries
  · have hpositive : header.tryCount.toNat ≠ 0 := fun hcount =>
      hzero (UInt16.toNat_inj.mp hcount)
    rw [if_neg hzero, parseTries_eq_ok_iff]
    constructor
    · intro ⟨padding, raw, groups, after, hpadding, hraw, hcount, hgroups, hpasses⟩
      have htries : tries ≠ [] := by
        rintro rfl
        exact hpositive hcount.symm
      exact ⟨_, after, .present htries hpadding hraw hgroups, hcount, hpasses⟩
    · intro ⟨bytes, after, htable, hcount, hpasses⟩
      cases htable with
      | absent => exact absurd hcount.symm hpositive
      | present _ hpadding hraw hgroups =>
          exact ⟨_, _, _, after, hpadding, hraw, hcount, hgroups, hpasses⟩

/-- The item with this header and these contents. -/
def ofParts (header : Header) (code : List CodeUnit) (table : List TryItem × Bytes) : CodeItem where
  registers := header.registers
  ins := header.ins
  outs := header.outs
  debugInfoOffset := header.debugInfoOffset
  code := code
  tries := table.1
  handlers := table.2

/-- The parser takes the header, the code and the exception table in turn. -/
theorem parse_eq (data : Bytes) (offset : Nat) :
    parse data offset =
      if data.length < offset then .error (.offsetOutOfBounds offset data.length)
      else do
        let (raw, cursor) ← (Cursor.ofOffset data offset).take Header.encodedSize
          "code_item header"
        let (units, cursor) ← cursor.take (2 * (Header.ofBytes raw).unitCount.toNat) "insns"
        let table ← parseTable (Header.ofBytes raw) cursor
        return ofParts (Header.ofBytes raw)
          (records 2 word16 (Header.ofBytes raw).unitCount.toNat units) table := by
  rw [parse]
  by_cases hbounds : data.length < offset
  · rw [if_pos hbounds, if_pos hbounds]
    rfl
  · rw [if_neg hbounds, if_neg hbounds]
    simp only [bind, Except.bind, parseTable]
    split
    · rfl
    · rename_i front _
      split
      · rfl
      · by_cases hzero : (Header.ofBytes front.1).tryCount = 0
        · simp only [if_pos hzero]
          rfl
        · simp only [if_neg hzero]
          rfl

/-- What is parsed is written in the data. -/
theorem encodes_of_parse {data : Bytes} {offset : Nat} {item : CodeItem}
    (hparse : parse data offset = .ok item) :
    ∃ bytes, bytes <+: data.drop offset ∧ Encodes bytes item := by
  rw [parse_eq] at hparse
  split at hparse
  · simp at hparse
  · simp only [bind_eq_ok_iff, Prod.exists, Cursor.take_eq_ok_iff, parseTable_eq_ok_iff] at hparse
    obtain ⟨front, middle, ⟨hfrontSize, hleft⟩, units, last, ⟨hunitsSize, hmiddle⟩, tries,
      handlers, ⟨table, after, htable, htryCount, hright⟩, hitem⟩ := hparse
    obtain rfl := Except.ok.inj hitem
    have hpasses := (hleft.trans hmiddle).trans hright
    have hcount : (records 2 word16 (Header.ofBytes front).unitCount.toNat units).length =
        (Header.ofBytes front).unitCount.toNat := length_records _ units
    refine ⟨front ++ units ++ table, ⟨after.rest, hpasses.1.symm⟩, .intro ?_ ?_ ?_⟩
    · exact encodesHeader_of_describes hfrontSize
        ⟨rfl, rfl, rfl, htryCount.symm, rfl, hcount.symm⟩
    · exact sequence_records readsRecord_word16 (by rw [hunitsSize, Nat.mul_comm])
    · rw [ofParts, hcount]
      exact htable

/-- What is written in the data is parsed, whatever stands behind it. -/
theorem parse_of_encodes {data bytes : Bytes} {offset : Nat} {item : CodeItem}
    (hbegins : bytes <+: data.drop offset) (hencodes : Encodes bytes item) :
    parse data offset = .ok item := by
  obtain ⟨rest, hrest⟩ := hbegins
  obtain ⟨hfront, hunits, htable⟩ := hencodes
  rename_i front units table
  have hfrontSize := hfront.length_eq
  obtain ⟨hregisters, hins, houts, htryCount, hdebugInfoOffset, hunitCount⟩ :=
    describes_of_encodesHeader hfront
  obtain ⟨hunitsSize, hcode⟩ := (sequence_iff_records readsRecord_word16 units item.code).mp hunits
  have hbounds : ¬data.length < offset := by
    have hlength := congrArg List.length hrest
    simp only [List.length_append, List.length_drop, hfrontSize, Header.encodedSize] at hlength
    omega
  have hpasses : (Cursor.ofOffset data offset).Passes (front ++ units ++ table) _ :=
    Cursor.passes_skip hrest.symm
  obtain ⟨last, hbody, hright⟩ := Cursor.passes_append.mp hpasses
  obtain ⟨middle, hleft, hmiddle⟩ := Cursor.passes_append.mp hbody
  rw [parse_eq, if_neg hbounds]
  simp only [bind_eq_ok_iff, Prod.exists, Cursor.take_eq_ok_iff, parseTable_eq_ok_iff]
  refine ⟨front, middle, ⟨hfrontSize, hleft⟩, units, last, ⟨?_, hmiddle⟩, item.tries,
    item.handlers, ⟨table, _, ?_, htryCount.symm, hright⟩, ?_⟩
  · rw [hunitsSize, hunitCount, Nat.mul_comm]
  · rw [hunitCount]
    exact htable
  · rw [ofParts, hunitCount, hcode, hregisters, hins, houts, hdebugInfoOffset]
    rfl

/-- An item with try ranges has groups that fill its handler list. -/
theorem WholeHandlers.encodes {item : CodeItem} (hwhole : item.WholeHandlers)
    (htries : item.tries ≠ []) : ∃ groups, HandlerList.Encodes item.handlers groups := by
  rw [WholeHandlers, if_neg htries] at hwhole
  exact hwhole

/-- The parser cuts the handler list off where its last group ends. -/
theorem wholeHandlers_of_parse {data : Bytes} {offset : Nat} {item : CodeItem}
    (hparse : parse data offset = .ok item) : item.WholeHandlers := by
  obtain ⟨_, -, -, -, htable⟩ := encodes_of_parse hparse
  rw [WholeHandlers]
  generalize item.tries = tries, item.handlers = handlers at htable
  cases htable with
  | absent => rw [if_pos rfl]
  | present htries _ _ hhandlers =>
      rw [if_neg htries]
      exact ⟨_, hhandlers⟩

/-- The parser returns an item exactly where the data go on with bytes that
write it. -/
theorem parse_eq_ok_iff (data : Bytes) (offset : Nat) (item : CodeItem) :
    parse data offset = .ok item ↔
      ∃ bytes, bytes <+: data.drop offset ∧ Encodes bytes item := by
  constructor
  · exact encodes_of_parse
  · intro ⟨bytes, hbegins, hencodes⟩
    exact parse_of_encodes hbegins hencodes

end CodeItem

end DalvikPrepass
