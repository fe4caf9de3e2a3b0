import Mathlib
import DalvikPrepass.Proofs.CodeItemGrammar
import DalvikPrepass.Proofs.HandlerStream

/-!
# Code items elsewhere in the data

It makes no difference to a code item where in the data it lies.  The parser is
run at two places side by side, the second a fixed distance behind the first:
it comes to the same item, or fails at the same part of it.  An error that says
where in the data it happened says so for either place; one in the handler list
counts from the start of the list and stays as it is.
-/

namespace DalvikPrepass

namespace ReadError

/-- The parts of a code item in front of its handler list. -/
def sections : List String :=
  ["code_item header", "insns", "padding", "try_items"]

/-- The errors of one failure at two places, the second of them `distance` behind
the first. -/
inductive Moves (distance : Nat) : ReadError → ReadError → Prop
  | offsetOutOfBounds (offset length : Nat) :
      Moves distance (.offsetOutOfBounds offset length)
        (.offsetOutOfBounds (distance + offset) (distance + length))
  | inSection {part : String} (hpart : part ∈ sections) (offset : Nat) :
      Moves distance (.truncated part offset) (.truncated part (distance + offset))
  | inList (offset : Nat) : Moves distance (.invalidLeb128 offset) (.invalidLeb128 offset)
  | noList : Moves distance (.truncated "encoded_catch_handler_list" 0)
      (.truncated "encoded_catch_handler_list" 0)

end ReadError

/-- The outcomes of reading at two places: results that match or errors of one
failure. -/
inductive Moved (distance : Nat) {α β : Type} (Matches : α → β → Prop) :
    Except ReadError α → Except ReadError β → Prop
  | ok {left : α} {right : β} (hmatches : Matches left right) :
      Moved distance Matches (.ok left) (.ok right)
  | error {left right : ReadError} (hmoves : left.Moves distance right) :
      Moved distance Matches (.error left) (.error right)

namespace Moved

variable {distance : Nat} {α β γ δ : Type}

/-- Two runs in step stay so if the next steps do. -/
theorem bind {Matches : α → β → Prop} {Agree : γ → δ → Prop} {left : Except ReadError α}
    {right : Except ReadError β} {next : α → Except ReadError γ}
    {nextRight : β → Except ReadError δ} (hfirst : Moved distance Matches left right)
    (hnext : ∀ first second, Matches first second →
      Moved distance Agree (next first) (nextRight second)) :
    Moved distance Agree (left >>= next) (right >>= nextRight) := by
  cases hfirst with
  | ok hmatches => exact hnext _ _ hmatches
  | error hmoves => exact .error hmoves

theorem eq_ok_iff {left right : Except ReadError α} {value : α}
    (hmoved : Moved distance Eq left right) : right = .ok value ↔ left = .ok value := by
  cases hmoved with
  | ok hequal => rw [hequal]
  | error => simp

theorem exists_error {Matches : α → β → Prop} {left : Except ReadError α}
    {right : Except ReadError β} {error : ReadError} (hmoved : Moved distance Matches left right)
    (hleft : left = .error error) : ∃ moved, right = .error moved ∧ error.Moves distance moved := by
  subst hleft
  cases hmoved with
  | error hmoves => exact ⟨_, rfl, hmoves⟩

end Moved

namespace Cursor

/-- The cursor on the same bytes, `distance` further into the data. -/
def move (cursor : Cursor) (distance : Nat) : Cursor :=
  ⟨cursor.rest, distance + cursor.position⟩

theorem ofOffset_append (before data : Bytes) (offset : Nat) :
    ofOffset (before ++ data) (before.length + offset) =
      (ofOffset data offset).move before.length := by
  rw [ofOffset, ← List.drop_drop, List.drop_left]
  rfl

/-- A section that is cut is reported at its moved place. -/
theorem moved_take {part : String} (hpart : part ∈ ReadError.sections) (cursor : Cursor)
    (distance count : Nat) :
    Moved distance (fun left right => right = (left.1, left.2.move distance))
      (cursor.take count part) ((cursor.move distance).take count part) := by
  rw [take, take]
  by_cases hcount : count ≤ cursor.rest.length
  · rw [if_pos hcount, if_pos (show count ≤ (cursor.move distance).rest.length from hcount)]
    refine .ok (Prod.ext rfl ?_)
    simp only [skip, move, Nat.add_assoc]
  · rw [if_neg hcount, if_neg (show ¬count ≤ (cursor.move distance).rest.length from hcount)]
    exact .error (.inSection hpart _)

end Cursor

/-- In a list that is not there or cannot be read nothing depends on where the
list lies. -/
theorem HandlerList.moved_extent (data : Bytes) (distance : Nat) :
    Moved distance Eq (extent data) (extent data) := by
  rw [extent]
  split
  · exact .error .noList
  · obtain ⟨handlers, stop, hreads⟩ := exists_readsAs data
    rcases walk_of_readsAs hreads with ⟨hwalk, -, -⟩ | ⟨found, hwalk, -, hending⟩
    · rw [hwalk]
      exact .error (.inList 0)
    · rw [hwalk]
      change Moved distance Eq found.ending found.ending
      rw [hending]
      cases stop with
      | ok length => exact .ok rfl
      | error place => exact .error (.inList place)

namespace CodeItem

variable {distance : Nat}

theorem moved_skipPadding (unitCount : Nat) (cursor : Cursor) :
    Moved distance (fun left right => right = left.move distance)
      (skipPadding unitCount cursor) (skipPadding unitCount (cursor.move distance)) := by
  rw [skipPadding, skipPadding]
  split
  · exact .ok rfl
  · apply (Cursor.moved_take (by decide) cursor distance 2).bind
    rintro ⟨padding, after⟩ _ rfl
    exact .ok rfl

theorem moved_parseTries (header : Header) (cursor : Cursor) :
    Moved distance Eq (parseTries header cursor) (parseTries header (cursor.move distance)) := by
  rw [parseTries, parseTries]
  apply (moved_skipPadding header.unitCount.toNat cursor).bind
  rintro padded _ rfl
  apply (Cursor.moved_take (by decide) padded distance _).bind
  rintro ⟨raw, after⟩ _ rfl
  -- The list is read from its own start on, so both places read the same bytes.
  apply (HandlerList.moved_extent after.rest distance).bind
  rintro length _ rfl
  exact .ok rfl

theorem moved_parseTable (header : Header) (cursor : Cursor) :
    Moved distance Eq (parseTable header cursor) (parseTable header (cursor.move distance)) := by
  rw [parseTable, parseTable]
  split
  · exact .ok rfl
  · exact moved_parseTries header cursor

/-- Behind other data an item is parsed in the same way, further on. -/
theorem moved_parse (before data : Bytes) (offset : Nat) :
    Moved before.length Eq (parse data offset)
      (parse (before ++ data) (before.length + offset)) := by
  rw [parse_eq, parse_eq, List.length_append, Cursor.ofOffset_append]
  by_cases hbounds : data.length < offset
  · rw [if_pos hbounds, if_pos (Nat.add_lt_add_left hbounds _)]
    exact .error (.offsetOutOfBounds offset data.length)
  · rw [if_neg hbounds, if_neg (fun hbeyond => hbounds (Nat.lt_of_add_lt_add_left hbeyond))]
    apply (Cursor.moved_take (by decide) _ _ _).bind
    rintro ⟨front, middle⟩ _ rfl
    apply (Cursor.moved_take (by decide) middle _ _).bind
    rintro ⟨units, last⟩ _ rfl
    apply (moved_parseTable (Header.ofBytes front) last).bind
    rintro table _ rfl
    exact .ok rfl

/-- Behind any other bytes the parser gives the same item, and it gives one only
where it does so without them.  Where it fails it fails in the same way, and
what its error says of places in the data has moved by the number of these
bytes. -/
theorem parse_append_left (before data : Bytes) (offset : Nat) :
    (∀ item, parse (before ++ data) (before.length + offset) = .ok item ↔
      parse data offset = .ok item) ∧
    ∀ error, parse data offset = .error error →
      ∃ moved, parse (before ++ data) (before.length + offset) = .error moved ∧
        error.Moves before.length moved := by
  have hmoved := moved_parse before data offset
  constructor
  · intro item
    exact hmoved.eq_ok_iff
  · intro error herror
    exact hmoved.exists_error herror

end CodeItem

end DalvikPrepass
