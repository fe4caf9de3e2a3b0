import Mathlib
import DalvikPrepass.Proofs.EncodedForm

/-!
# Built code items

Which builders a program can reach, and what all of them have in common.  The
code item of a builder that stays within the bounds of the layout is written in
the grammar, so the parser gives it back from any place in any data.
-/

namespace DalvikPrepass.CodeItemBuilder

/-- The builders that calls lead to from the empty one, with every list of
handlers that was added as a group and the number that was given for it.  A
group has at least one handler, and a try range takes a number that was
given. -/
inductive Built : CodeItemBuilder → List (List Handler × Nat) → Prop
  | empty : Built empty []
  | setRegisters {builder : CodeItemBuilder} {given : List (List Handler × Nat)}
      (hbuilt : Built builder given) (registers ins outs : UInt16) :
      Built (builder.setRegisters registers ins outs) given
  | appendCode {builder : CodeItemBuilder} {given : List (List Handler × Nat)}
      (hbuilt : Built builder given) (units : List CodeUnit) :
      Built (builder.appendCode units) given
  | addGroup {builder : CodeItemBuilder} {given : List (List Handler × Nat)}
      {handlers : List Handler} (hbuilt : Built builder given) (hhandlers : handlers ≠ []) :
      Built (builder.addGroup handlers).2 ((handlers, (builder.addGroup handlers).1) :: given)
  | addTry {builder : CodeItemBuilder} {given : List (List Handler × Nat)}
      {handlers : List Handler} {number : Nat} (hbuilt : Built builder given)
      (hgiven : (handlers, number) ∈ given) (start count : UInt32) :
      Built (builder.addTry start count number) given

/-- The numbers of groups and of typed handlers can be written. -/
structure Countable (builder : CodeItemBuilder) : Prop where
  groups : builder.groups.size < 2 ^ 32
  typed : ∀ group ∈ builder.groups.toList, group.typed.length < 2 ^ 31

/-- Everything that is written fits its bytes, the number of try ranges
apart. -/
structure Fits (builder : CodeItemBuilder) : Prop extends Countable builder where
  code : builder.code.size < 2 ^ 32
  tries : ∀ range ∈ builder.build.tries, range.IsShort

theorem mem_groups_of_mem_addGroup {builder : CodeItemBuilder} {handlers : List Handler}
    {group : HandlerGroup} (hgroup : group ∈ (builder.addGroup handlers).2.groups.toList) :
    group ∈ builder.groups.toList ∨ group = HandlerGroup.ofHandlers handlers := by
  rw [addGroup] at hgroup
  split at hgroup
  · exact .inl hgroup
  · rw [Array.toList_push, List.mem_append, List.mem_singleton] at hgroup
    exact hgroup

/-- Builders keep no group without a handler. -/
theorem Built.isProper {builder : CodeItemBuilder} {given : List (List Handler × Nat)}
    (hbuilt : Built builder given) : ∀ group ∈ builder.groups.toList, group.IsProper := by
  induction hbuilt with
  | empty =>
      intro group hgroup
      exact absurd hgroup List.not_mem_nil
  | setRegisters _ _ _ _ ih => exact ih
  | appendCode _ _ ih => exact ih
  | addGroup _ hhandlers ih =>
      intro group hgroup
      rcases mem_groups_of_mem_addGroup hgroup with hbefore | rfl
      · exact ih group hbefore
      · exact HandlerGroup.isProper_ofHandlers hhandlers
  | addTry _ _ _ _ ih => exact ih

theorem length_tries_build (builder : CodeItemBuilder) :
    builder.build.tries.length = builder.tries.size := by
  rw [build, List.length_map, Array.length_toList]

/-- The handler list of a builder holds its groups, each once and in order. -/
theorem encodes_handlers {builder : CodeItemBuilder} {given : List (List Handler × Nat)}
    (hbuilt : Built builder given) (hcountable : builder.Countable) :
    HandlerList.Encodes (HandlerList.encode builder.groups.toList)
      (builder.groups.toList.map HandlerGroup.toHandlers) :=
  HandlerList.encodes_encode hcountable.groups hbuilt.isProper hcountable.typed

/-- A built item has a handler list that can be read to its end. -/
theorem wholeHandlers_build {builder : CodeItemBuilder} {given : List (List Handler × Nat)}
    (hbuilt : Built builder given) (hcountable : builder.Countable) :
    builder.build.WholeHandlers := by
  have hnone : builder.build.tries = [] ↔ builder.tries.isEmpty = true := by
    rw [← List.length_eq_zero_iff, length_tries_build, Array.isEmpty_iff_size_eq_zero]
  rw [CodeItem.WholeHandlers]
  by_cases hempty : builder.tries.isEmpty = true
  · rw [if_pos (hnone.mpr hempty), build, if_pos hempty]
  · rw [if_neg (hnone.not.mpr hempty), build, if_neg hempty]
    exact ⟨_, encodes_handlers hbuilt hcountable⟩

/-- A builder whose numbers fit is read back from what it writes, whatever lies
around it, unless it has more try ranges than their count can tell. -/
theorem parse_encode_eq_ok_iff {builder : CodeItemBuilder} {given : List (List Handler × Nat)}
    (hbuilt : Built builder given) (hfits : builder.Fits) (before after : Bytes) :
    CodeItem.parse (before ++ builder.encode ++ after) before.length = .ok builder.build ↔
      builder.tries.size ≤ 0xffff := by
  rw [← length_tries_build]
  constructor
  · intro hparse
    obtain ⟨_, -, hfront, -, -⟩ := CodeItem.encodes_of_parse hparse
    exact Nat.le_of_lt_succ hfront.length_tries_lt
  · intro htries
    have hbegins : builder.encode <+: (before ++ builder.encode ++ after).drop before.length := by
      rw [List.append_assoc, List.drop_left]
      exact List.prefix_append builder.encode after
    apply CodeItem.parse_of_encodes hbegins
    exact CodeItem.encodes_encode hfits.code (Nat.lt_succ_of_le htries) hfits.tries
      (wholeHandlers_build hbuilt hfits.toCountable)

/-- One code unit, covered by two ranges that share a group. -/
def guardedReturn : CodeItemBuilder :=
  let builder := (empty.appendCode [0x000e]).addGroup [⟨some 3, 0⟩, ⟨none, 0⟩]
  (builder.2.addTry 0 1 builder.1).addTry 0 1 builder.1

theorem built_guardedReturn : Built guardedReturn [([⟨some 3, 0⟩, ⟨none, 0⟩], 0)] := by
  have hgroup : Built ((empty.appendCode [0x000e]).addGroup [⟨some 3, 0⟩, ⟨none, 0⟩]).2
      [([⟨some 3, 0⟩, ⟨none, 0⟩], 0)] :=
    .addGroup (.appendCode .empty [0x000e]) (List.cons_ne_nil _ _)
  apply Built.addTry _ List.mem_cons_self
  exact .addTry hgroup List.mem_cons_self 0 1

theorem tries_guardedReturn : guardedReturn.build.tries = [⟨0, 1, 1⟩, ⟨0, 1, 1⟩] := by
  cbv

theorem fits_guardedReturn : guardedReturn.Fits where
  groups := by decide
  typed := by decide
  code := by decide
  tries := by
    rw [tries_guardedReturn]
    simp [TryItem.IsShort]

theorem parse_encode_guardedReturn :
    Built guardedReturn [([⟨some 3, 0⟩, ⟨none, 0⟩], 0)] ∧ guardedReturn.Fits ∧
      CodeItem.parse ([1] ++ guardedReturn.encode ++ [2, 3]) 1 = .ok guardedReturn.build := by
  refine ⟨built_guardedReturn, fits_guardedReturn, ?_⟩
  apply (parse_encode_eq_ok_iff built_guardedReturn fits_guardedReturn [1] [2, 3]).mpr
  decide

end DalvikPrepass.CodeItemBuilder
