import Mathlib
import DalvikPrepass.Proofs.CodeItemGrammar
import DalvikPrepass.Proofs.CutHandlerList

/-!
# Code items cut short

A parsed code item has one extent.  Data that are cut behind it still have the
item, and data that are cut inside it have none: the error names the first part
of the item that is not complete.
-/

namespace DalvikPrepass

namespace Cursor

/-- The cursor on the data that end at `size`. -/
def cut (cursor : Cursor) (size : Nat) : Cursor :=
  ⟨cursor.rest.take (size - cursor.position), cursor.position⟩

theorem cut_ofOffset (data : Bytes) (offset size : Nat) :
    (ofOffset data offset).cut size = ofOffset (data.take size) offset := by
  rw [cut, ofOffset, ofOffset, List.drop_take]

/-- A section is read in full or reported as cut. -/
theorem take_cut {cursor after : Cursor} {bytes : Bytes} {count size : Nat} {part : String}
    (htake : cursor.take count part = .ok (bytes, after)) (hstart : cursor.position ≤ size) :
    (cursor.cut size).take count part =
      if cursor.position + count ≤ size then .ok (bytes, after.cut size)
      else .error (.truncated part cursor.position) := by
  obtain ⟨hcount, hrest, hposition⟩ := take_eq_ok_iff.mp htake
  by_cases hwhole : cursor.position + count ≤ size
  · rw [if_pos hwhole, take_eq_ok_iff]
    refine ⟨hcount, ?_, hposition⟩
    simp only [cut, hrest, hposition, hcount]
    rw [List.take_append, List.take_of_length_le (by omega), hcount, Nat.sub_sub]
  · rw [if_neg hwhole, take, if_neg]
    · rfl
    · rw [cut, List.length_take]
      omega

end Cursor

namespace CodeItem

/-- The list that the parser takes at the cursor, if the data end at `size`. -/
theorem takeList_cut {cursor : Cursor} {handlers rest : Bytes} {groups : List (List Handler)}
    (hencodes : HandlerList.Encodes handlers groups) (hrest : cursor.rest = handlers ++ rest)
    (tries : List TryItem) (size : Nat) :
    (do
      let length ← HandlerList.extent (cursor.cut size).rest
      return (tries, (cursor.cut size).rest.take length)) =
      (HandlerList.cutError handlers (size - cursor.position)).elim (.ok (tries, handlers))
        Except.error := by
  rw [Cursor.cut, hrest, HandlerList.extent_take hencodes]
  cases hcut : HandlerList.cutError handlers (size - cursor.position) with
  | none =>
      rw [HandlerList.cutError_eq_none_iff hencodes.ne_nil] at hcut
      have htaken : ((handlers ++ rest).take (size - cursor.position)).take handlers.length =
          handlers := by
        rw [List.take_take, Nat.min_eq_left hcut, List.take_left]
      exact congrArg (fun bytes => Except.ok (tries, bytes)) htaken
  | some error => rfl

/-- Bytes between the code and the try ranges. -/
def paddingSize (unitCount : Nat) : Nat :=
  if unitCount % 2 = 0 then 0 else 2

/-- The error for the first of the sections that is not complete in front of
`size`, and what `behind` says if they all are.  The sections lie back to back
from `start` on. -/
def sectionsError (behind : Nat → Option ReadError) (size : Nat) :
    (start : Nat) → List (String × Nat) → Option ReadError
  | start, [] => behind start
  | start, (part, length) :: sections =>
      if start + length ≤ size then sectionsError behind size (start + length) sections
      else some (.truncated part start)

/-- The sections between the code and the handler list, with their lengths. -/
def tableSections (unitCount : Nat) (tries : List TryItem) : List (String × Nat) :=
  if tries = [] then []
  else [("padding", paddingSize unitCount), ("try_items", tries.length * TryItem.encodedSize)]

/-- Why the handler list, which starts at `start`, is not complete in front of
`size`, if it is not.  Without try ranges there is none. -/
def listError (tries : List TryItem) (handlers : Bytes) (size start : Nat) : Option ReadError :=
  if tries = [] then none else HandlerList.cutError handlers (size - start)

/-- The sections in front of the handler list, with their lengths. -/
def sections (item : CodeItem) : List (String × Nat) :=
  ("code_item header", Header.encodedSize) :: ("insns", 2 * item.code.length) ::
    tableSections item.code.length item.tries

/-- Why an item at `offset` is not complete in the first `size` bytes of the
data, if it is not. -/
def cutError (item : CodeItem) (offset size : Nat) : Option ReadError :=
  if size < offset then some (.offsetOutOfBounds offset size)
  else sectionsError (listError item.tries item.handlers size) size offset item.sections

/-- A section that is taken from the front, and then what comes after it. -/
theorem bind_take_cut {α : Type} {cursor after : Cursor} {bytes : Bytes} {count size : Nat}
    {part : String} {behind : Nat → Option ReadError} {sections : List (String × Nat)}
    {next : Bytes × Cursor → Except ReadError α} {result : α}
    (htake : cursor.take count part = .ok (bytes, after)) (hstart : cursor.position ≤ size)
    (hnext : after.position ≤ size → next (bytes, after.cut size) =
      (sectionsError behind size after.position sections).elim (.ok result) .error) :
    ((cursor.cut size).take count part >>= next) =
      (sectionsError behind size cursor.position ((part, count) :: sections)).elim (.ok result)
        .error := by
  obtain ⟨hcount, -, hposition⟩ := Cursor.take_eq_ok_iff.mp htake
  rw [hcount] at hposition
  rw [Cursor.take_cut htake hstart, sectionsError, ← hposition]
  by_cases hwhole : after.position ≤ size
  · rw [if_pos hwhole, if_pos hwhole]
    exact hnext hwhole
  · rw [if_neg hwhole, if_neg hwhole]
    rfl

theorem bind_skipPadding_cut {α : Type} {unitCount size : Nat} {cursor after : Cursor}
    {behind : Nat → Option ReadError} {sections : List (String × Nat)}
    {next : Cursor → Except ReadError α} {result : α}
    (hskip : skipPadding unitCount cursor = .ok after) (hstart : cursor.position ≤ size)
    (hnext : after.position ≤ size → next (after.cut size) =
      (sectionsError behind size after.position sections).elim (.ok result) .error) :
    (skipPadding unitCount (cursor.cut size) >>= next) =
      (sectionsError behind size cursor.position
        (("padding", paddingSize unitCount) :: sections)).elim (.ok result) .error := by
  rw [skipPadding] at hskip ⊢
  by_cases heven : unitCount % 2 = 0
  · rw [if_pos heven] at hskip
    obtain rfl := Except.ok.inj hskip
    rw [if_pos heven, paddingSize, if_pos heven, sectionsError, Nat.add_zero, if_pos hstart]
    exact hnext hstart
  · rw [if_neg heven, bind_eq_ok_iff] at hskip
    obtain ⟨⟨padding, last⟩, htake, hlast⟩ := hskip
    obtain rfl := Except.ok.inj hlast
    rw [if_neg heven, bind_assoc, paddingSize, if_neg heven]
    exact bind_take_cut htake hstart hnext

theorem parseTries_cut {header : Header} {cursor : Cursor} {tries : List TryItem}
    {handlers : Bytes} {size : Nat} (hparse : parseTries header cursor = .ok (tries, handlers))
    (htries : tries ≠ []) (hstart : cursor.position ≤ size) :
    parseTries header (cursor.cut size) =
      (sectionsError (listError tries handlers size) size cursor.position
        (tableSections header.unitCount.toNat tries)).elim (.ok (tries, handlers)) .error := by
  rw [parseTries] at hparse ⊢
  simp only [bind_eq_ok_iff, Prod.exists] at hparse
  obtain ⟨first, hskip, raw, second, hraw, length, hextent, hresult⟩ := hparse
  obtain ⟨bytes, groups, ⟨rest, hrest⟩, hencodes, rfl⟩ := HandlerList.extent_eq_ok_iff.mp hextent
  rw [← hrest, List.take_left] at hresult
  obtain ⟨rfl, rfl⟩ := Prod.mk.inj (Except.ok.inj hresult)
  rw [tableSections, if_neg htries, Bytes.length_records]
  apply bind_skipPadding_cut hskip hstart
  intro hpadded
  apply bind_take_cut hraw hpadded
  intro _
  rw [sectionsError, listError, if_neg htries]
  exact takeList_cut hencodes hrest.symm _ size

/-- How the table of try ranges is parsed from data that may end inside of it. -/
theorem parseTable_cut {header : Header} {cursor : Cursor} {tries : List TryItem}
    {handlers : Bytes} {size : Nat} (hparse : parseTable header cursor = .ok (tries, handlers))
    (hstart : cursor.position ≤ size) :
    parseTable header (cursor.cut size) =
      (sectionsError (listError tries handlers size) size cursor.position
        (tableSections header.unitCount.toNat tries)).elim (.ok (tries, handlers)) .error := by
  obtain ⟨_, _, -, hcount, -⟩ := parseTable_eq_ok_iff.mp hparse
  rw [parseTable] at hparse ⊢
  by_cases hzero : header.tryCount = 0
  · rw [if_pos hzero] at hparse ⊢
    obtain ⟨rfl, rfl⟩ := Prod.mk.inj (Except.ok.inj hparse)
    rfl
  · rw [if_neg hzero] at hparse ⊢
    apply parseTries_cut hparse _ hstart
    rintro rfl
    exact hzero (UInt16.toNat_inj.mp hcount.symm)

/-- On data that are cut, the parser fails at the first part of the item that is
not complete, and it gives the item if all of them are. -/
theorem parse_take_eq {data : Bytes} {offset size : Nat} {item : CodeItem}
    (hparse : parse data offset = .ok item) (hsize : size ≤ data.length) :
    parse (data.take size) offset = (item.cutError offset size).elim (.ok item) .error := by
  rw [parse_eq] at hparse ⊢
  rw [List.length_take_of_le hsize, ← Cursor.cut_ofOffset, cutError]
  by_cases hoffset : size < offset
  · rw [if_pos hoffset, if_pos hoffset]
    rfl
  rw [if_neg (by omega)] at hparse
  simp only [bind_eq_ok_iff, Prod.exists] at hparse
  obtain ⟨front, middle, hfront, units, last, hunits, tries, handlers, htable, hitem⟩ := hparse
  obtain rfl := Except.ok.inj hitem
  rw [if_neg hoffset, if_neg hoffset, sections, ofParts, Bytes.length_records]
  apply bind_take_cut hfront (Nat.le_of_not_lt hoffset)
  intro hheader
  apply bind_take_cut hunits hheader
  intro hbody
  dsimp only
  rw [parseTable_cut htable hbody]
  cases sectionsError (listError tries handlers size) size last.position
      (tableSections (Header.ofBytes front).unitCount.toNat tries) with
  | none => rfl
  | some error => rfl

/-! ## Extents -/

/-- Where the handler list of an item at `offset` starts. -/
def listStart (item : CodeItem) (offset : Nat) : Nat :=
  offset + (item.sections.map Prod.snd).sum

/-- No section is cut if there is room for all of them. -/
theorem sectionsError_eq_none_iff {behind : Nat → Option ReadError} {size start : Nat}
    {sections : List (String × Nat)} (hstart : start ≤ size) :
    sectionsError behind size start sections = none ↔
      start + (sections.map Prod.snd).sum ≤ size ∧
        behind (start + (sections.map Prod.snd).sum) = none := by
  induction sections generalizing start with
  | nil => simp [sectionsError, hstart]
  | cons first sections ih =>
      obtain ⟨part, length⟩ := first
      rw [sectionsError, List.map_cons, List.sum_cons, ← Nat.add_assoc]
      by_cases hfirst : start + length ≤ size
      · rw [if_pos hfirst, ih hfirst]
      · rw [if_neg hfirst]
        simp
        omega

/-- An item is not cut if all of it is there. -/
theorem cutError_eq_none_iff {item : CodeItem} {offset size : Nat} (hwhole : item.WholeHandlers) :
    item.cutError offset size = none ↔ item.listStart offset + item.handlers.length ≤ size := by
  have hstart : offset ≤ item.listStart offset := Nat.le_add_right _ _
  rw [cutError]
  by_cases hoffset : size < offset
  · rw [if_pos hoffset]
    simp
    omega
  · rw [if_neg hoffset, sectionsError_eq_none_iff (Nat.le_of_not_lt hoffset), ← listStart, listError]
    by_cases htries : item.tries = []
    · rw [WholeHandlers, if_pos htries] at hwhole
      simp [htries, hwhole]
    · obtain ⟨groups, hgroups⟩ := hwhole.encodes htries
      have hpositive := List.length_pos_iff.mpr hgroups.ne_nil
      rw [if_neg htries, HandlerList.cutError_eq_none_iff hgroups.ne_nil]
      omega

/-- The handlers are written at the end of the item. -/
theorem Encodes.exists_front {bytes : Bytes} {item : CodeItem} (hencodes : Encodes bytes item) :
    ∃ front, bytes = front ++ item.handlers ∧
      front.length = (item.sections.map Prod.snd).sum := by
  obtain ⟨hfront, hunits, htable⟩ := hencodes
  rename_i front units table
  have hunitsSize := ((Bytes.sequence_iff_records readsRecord_word16 _ _).mp hunits).1
  have hfrontSize := hfront.length_eq
  rw [sections]
  generalize item.tries = tries, item.handlers = handlers at htable ⊢
  cases htable with
  | absent =>
      refine ⟨front ++ units, rfl, ?_⟩
      simp [tableSections, hfrontSize, hunitsSize, Nat.mul_comm]
  | @present padding raw _ _ _ htries hpadding hraw _ =>
      have hrawSize := ((Bytes.sequence_iff_records TryItem.readsRecord _ _).mp hraw).1
      refine ⟨front ++ units ++ (padding ++ raw), by simp only [List.append_assoc], ?_⟩
      simp [tableSections, htries, paddingSize, hfrontSize, hunitsSize, hpadding, hrawSize,
        Nat.mul_comm]

/-- The item lies in front of `stop`.  It is found in data that are cut there or
behind, and data that are cut earlier give the error that the cut asks for. -/
structure Extent (data : Bytes) (offset : Nat) (item : CodeItem) (stop : Nat) : Prop where
  stop_le : stop ≤ data.length
  whole : ∀ size ≤ data.length, stop ≤ size → parse (data.take size) offset = .ok item
  cut : ∀ size ≤ data.length, size < stop →
    ∃ error, item.cutError offset size = some error ∧
      parse (data.take size) offset = .error error

/-- A parsed item ends where its handler list does. -/
theorem extent_of_parse {data : Bytes} {offset : Nat} {item : CodeItem}
    (hparse : parse data offset = .ok item) :
    Extent data offset item (item.listStart offset + item.handlers.length) := by
  have hnone : ∀ size, item.cutError offset size = none ↔
      item.listStart offset + item.handlers.length ≤ size :=
    fun _ => cutError_eq_none_iff (wholeHandlers_of_parse hparse)
  have hstop : item.listStart offset + item.handlers.length ≤ data.length := by
    have hall := parse_take_eq hparse (Nat.le_refl data.length)
    rw [List.take_length, hparse] at hall
    rw [← hnone]
    cases hcut : item.cutError offset data.length with
    | none => rfl
    | some error =>
        rw [hcut] at hall
        cases hall
  constructor
  · exact hstop
  · intro size hsize hwhole
    rw [parse_take_eq hparse hsize, (hnone size).mpr hwhole]
    rfl
  · intro size hsize hcut
    obtain ⟨error, herror⟩ := Option.ne_none_iff_exists'.mp
      (mt (hnone size).mp (Nat.not_le_of_lt hcut))
    refine ⟨error, herror, ?_⟩
    rw [parse_take_eq hparse hsize, herror]
    rfl

/-- No extent is longer than another, so that there is one only. -/
theorem Extent.le {data : Bytes} {offset : Nat} {item : CodeItem} {stop other : Nat}
    (hextent : Extent data offset item stop) (hother : Extent data offset item other) :
    other ≤ stop := by
  by_contra hlonger
  have hok := hextent.whole stop hextent.stop_le (Nat.le_refl stop)
  obtain ⟨error, -, herror⟩ := hother.cut stop hextent.stop_le (Nat.lt_of_not_le hlonger)
  rw [hok] at herror
  cases herror

/-- A parsed item has exactly one extent: it ends with the code if there are no
try ranges and otherwise with the handler list, whose bytes are values back to
back.  A cut inside of it leaves an error. -/
theorem existsUnique_extent {data : Bytes} {offset : Nat} {item : CodeItem}
    (hparse : parse data offset = .ok item) :
    (∃! stop, Extent data offset item stop) ∧
      ∀ stop, Extent data offset item stop →
        (item.tries = [] → stop = offset + 16 + 2 * item.code.length) ∧
        (item.tries ≠ [] → stop = item.listStart offset + item.handlers.length) ∧
        item.handlers <+: data.drop (item.listStart offset) ∧
        Leb128.AreValues item.handlers := by
  have hextent := extent_of_parse hparse
  have hunique : ∀ stop, Extent data offset item stop →
      stop = item.listStart offset + item.handlers.length :=
    fun stop hstop => Nat.le_antisymm (hextent.le hstop) (hstop.le hextent)
  refine ⟨⟨_, hextent, hunique⟩, ?_⟩
  intro stop hstop
  obtain rfl := hunique stop hstop
  have hwhole := wholeHandlers_of_parse hparse
  obtain ⟨bytes, ⟨rest, hrest⟩, hencodes⟩ := encodes_of_parse hparse
  obtain ⟨front, rfl, hfront⟩ := hencodes.exists_front
  refine ⟨?_, fun _ => rfl, ?_, ?_⟩
  · intro htries
    rw [WholeHandlers, if_pos htries] at hwhole
    rw [hwhole, listStart, sections, tableSections, if_pos htries]
    simp [Header.encodedSize, Nat.add_assoc]
  · rw [listStart, ← hfront, ← List.drop_drop, ← hrest, List.append_assoc, List.drop_left]
    exact List.prefix_append _ _
  · by_cases htries : item.tries = []
    · rw [WholeHandlers, if_pos htries] at hwhole
      rw [hwhole]
      exact .nil
    · obtain ⟨groups, hgroups⟩ := hwhole.encodes htries
      exact HandlerList.areValues_of_encodes hgroups

/-- A return with a try range over it, between two stray bytes.  The group count
and the catch-all are written in two bytes each. -/
def strayReturn : Bytes :=
  [9] ++ [0, 0, 0, 0, 0, 0, 1, 0, 0, 0, 0, 0, 1, 0, 0, 0] ++ [0x0e, 0] ++ [0, 0] ++
    [0, 0, 0, 0, 1, 0, 2, 0] ++ [0x81, 0, 0x7f, 3, 0, 0x80, 1] ++ [9]

def strayReturnItem : CodeItem :=
  ⟨0, 0, 0, 0, [0x000e], [⟨0, 1, 2⟩], [0x81, 0, 0x7f, 3, 0, 0x80, 1]⟩

theorem parse_strayReturn : parse strayReturn 1 = .ok strayReturnItem := by
  cbv

theorem extent_strayReturn :
    parse strayReturn 1 = .ok strayReturnItem ∧
      Extent strayReturn 1 strayReturnItem 36 ∧
      parse (strayReturn.take 20) 1 = .error (.truncated "padding" 19) ∧
      parse (strayReturn.take 35) 1 = .error (.invalidLeb128 5) := by
  obtain ⟨⟨stop, hextent, -⟩, hstops⟩ := existsUnique_extent parse_strayReturn
  obtain rfl : stop = 36 := (hstops stop hextent).2.1 (List.cons_ne_nil _ _)
  obtain ⟨first, hfirst, hparseFirst⟩ := hextent.cut 20 (by decide) (by decide)
  obtain ⟨second, hsecond, hparseSecond⟩ := hextent.cut 35 (by decide) (by decide)
  obtain rfl : ReadError.truncated "padding" 19 = first := Option.some.inj hfirst
  obtain rfl : ReadError.invalidLeb128 5 = second := Option.some.inj hsecond
  exact ⟨parse_strayReturn, hextent, hparseFirst, hparseSecond⟩

end CodeItem

end DalvikPrepass
