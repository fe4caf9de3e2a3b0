import Mathlib
import DalvikPrepass.Proofs.BuilderRoundTrip

/-!
# Shared handler groups

A group keeps of a list of handlers its normal form, and a builder keeps one
group for all lists with the same normal form.  So the numbers that it gives are
as many as the normal forms, and the offsets of the groups that it writes tell
the normal forms apart.
-/

namespace DalvikPrepass

namespace HandlerGroup

/-- The typed handlers in their order and then the first catch-all, if there is
one. -/
def normalForm (handlers : List Handler) : List Handler :=
  handlers.filter Handler.isTyped ++
    (handlers.find? fun handler => !handler.isTyped).toList

theorem map_typed_ofHandlers (handlers : List Handler) :
    (ofHandlers handlers).typed.map (fun entry => ⟨some entry.1, entry.2⟩) =
      handlers.filter Handler.isTyped := by
  rw [ofHandlers, List.map_filterMap, ← List.filterMap_eq_filter]
  apply congrArg (List.filterMap · handlers)
  funext handler
  obtain ⟨typeIndex, address⟩ := handler
  cases typeIndex <;> rfl

theorem map_catchAll_ofHandlers (handlers : List Handler) :
    (ofHandlers handlers).catchAll.toList.map (fun address => ⟨none, address⟩) =
      (handlers.find? fun handler => !handler.isTyped).toList := by
  simp only [ofHandlers, Handler.isTyped, Option.not_isSome]
  cases hfind : handlers.find? fun handler => handler.typeIndex.isNone with
  | none => rfl
  | some handler =>
      obtain ⟨typeIndex, address⟩ := handler
      have hkind := List.find?_some hfind
      obtain rfl : typeIndex = none := Option.isNone_iff_eq_none.mp hkind
      rfl

/-- A group keeps its handlers in normal form. -/
theorem toHandlers_ofHandlers (handlers : List Handler) :
    (ofHandlers handlers).toHandlers = normalForm handlers := by
  rw [normalForm, ← map_typed_ofHandlers, ← map_catchAll_ofHandlers]
  rfl

theorem ofHandlers_toHandlers (group : HandlerGroup) : ofHandlers group.toHandlers = group := by
  obtain ⟨typed, catchAll⟩ := group
  have hnone : typed.find? (fun _ => false) = none := by simp
  cases catchAll <;> simp [ofHandlers, toHandlers, hnone]

theorem toHandlers_injective : Function.Injective toHandlers :=
  Function.LeftInverse.injective ofHandlers_toHandlers

/-- The normal form decides whether two lists of handlers share a group. -/
theorem ofHandlers_eq_iff {left right : List Handler} :
    ofHandlers left = ofHandlers right ↔ normalForm left = normalForm right := by
  rw [← toHandlers_ofHandlers, ← toHandlers_ofHandlers, toHandlers_injective.eq_iff]

theorem length_typed_ofHandlers (handlers : List Handler) :
    (ofHandlers handlers).typed.length = (handlers.filter Handler.isTyped).length := by
  rw [← map_typed_ofHandlers, List.length_map]

theorem encode_ne_nil (group : HandlerGroup) : group.encode ≠ [] := by
  rw [encode, Leb128.encodeSigned]
  simp [Leb128.encodeInt_ne_nil]

end HandlerGroup

namespace HandlerList

theorem length_le_length_encode (groups : List HandlerGroup) :
    groups.length ≤ (encode groups).length := by
  have hpositive : ∀ length ∈ groups.map fun group => group.encode.length, 1 ≤ length := by
    intro length hlength
    obtain ⟨group, -, rfl⟩ := List.mem_map.mp hlength
    exact List.length_pos_iff.mpr group.encode_ne_nil
  calc groups.length = (groups.map fun group => group.encode.length).length :=
        (List.length_map _).symm
    _ ≤ (groups.map fun group => group.encode.length).sum :=
        List.length_le_sum_of_one_le _ hpositive
    _ = (groups.flatMap HandlerGroup.encode).length := List.length_flatMap.symm
    _ ≤ (encode groups).length := by
        rw [encode, List.length_append]
        exact Nat.le_add_left _ _

/-- Behind whatever lies in front of the first group, each group is written at
its offset. -/
theorem encode_prefix_of_offsetsFrom {groups : List HandlerGroup} {group : HandlerGroup}
    {number : Nat} (front : Bytes) (hgroup : groups[number]? = some group) :
    ∃ start, (offsetsFrom front.length groups)[number]? = some start ∧
      group.encode <+: (front ++ groups.flatMap HandlerGroup.encode).drop start := by
  induction groups generalizing front number with
  | nil => simp at hgroup
  | cons first groups ih =>
      rw [List.flatMap_cons]
      cases number with
      | zero =>
          obtain rfl : first = group := by simpa using hgroup
          refine ⟨front.length, rfl, ?_⟩
          rw [List.drop_left]
          exact List.prefix_append _ _
      | succ number =>
          obtain ⟨start, hstart, hbegins⟩ := ih (front ++ first.encode) hgroup
          rw [List.length_append] at hstart
          rw [List.append_assoc] at hbegins
          exact ⟨start, hstart, hbegins⟩

/-- A group is read wherever it is written, whatever stands behind it. -/
theorem groupAt_of_encodesGroup {data bytes : Bytes} {offset : Nat} {handlers : List Handler}
    (hgroup : EncodesGroup bytes handlers) (hbegins : bytes <+: data.drop offset) :
    ∃ reader after, groupAt data offset = .ok reader ∧
      reader.drain = (handlers, .ok after) := by
  obtain ⟨rest, hrest⟩ := hbegins
  have hpasses : (Cursor.ofOffset data offset).Passes bytes _ := Cursor.passes_skip hrest.symm
  obtain ⟨reader, hstart, hdrain⟩ := drain_of_encodesGroup hgroup hpasses
  exact ⟨reader, _, hstart, hdrain⟩

end HandlerList

namespace CodeItemBuilder

open HandlerGroup (normalForm)

/-- The normal forms of the lists that were added, each of them once and in the
order in which it was added first.  The last list added comes first in `given`. -/
def normalForms (given : List (List Handler × Nat)) : List (List Handler) :=
  (given.map fun call => normalForm call.1).dedup.reverse

theorem nodup_normalForms (given : List (List Handler × Nat)) : (normalForms given).Nodup :=
  List.nodup_reverse.mpr (List.nodup_dedup _)

theorem normalForms_cons (call : List Handler × Nat) (given : List (List Handler × Nat)) :
    normalForms (call :: given) =
      if normalForm call.1 ∈ normalForms given then normalForms given
      else normalForms given ++ [normalForm call.1] := by
  simp only [normalForms, List.map_cons, List.dedup_cons, List.mem_reverse, List.mem_dedup]
  split
  · rfl
  · exact List.reverse_cons

/-- What a builder has kept of the calls that made it. -/
structure Keeps (builder : CodeItemBuilder) (given : List (List Handler × Nat)) : Prop where
  forms : builder.groups.toList.map HandlerGroup.toHandlers = normalForms given
  group : ∀ call ∈ given, builder.groups.toList[call.2]? = some (HandlerGroup.ofHandlers call.1)
  range : ∀ range ∈ builder.tries.toList, ∃ call ∈ given, call.2 = range.group

/-- A group that is there already is not added once more. -/
theorem addGroup_of_mem {builder : CodeItemBuilder} {handlers : List Handler}
    (hmem : HandlerGroup.ofHandlers handlers ∈ builder.groups.toList) :
    ∃ number, builder.groups.toList[number]? = some (HandlerGroup.ofHandlers handlers) ∧
      builder.addGroup handlers = (number, builder) := by
  rw [addGroup]
  cases hfind : builder.groups.toList.findIdx? (· == HandlerGroup.ofHandlers handlers) with
  | none =>
      have hdistinct := List.findIdx?_eq_none_iff.mp hfind _ hmem
      exact absurd hdistinct (by simp)
  | some number =>
      obtain ⟨hnumber, hequal, -⟩ := List.findIdx?_eq_some_iff_getElem.mp hfind
      refine ⟨number, ?_, rfl⟩
      rw [List.getElem?_eq_getElem hnumber, eq_of_beq hequal]

/-- A new group comes last. -/
theorem addGroup_of_notMem {builder : CodeItemBuilder} {handlers : List Handler}
    (hmem : HandlerGroup.ofHandlers handlers ∉ builder.groups.toList) :
    builder.addGroup handlers = (builder.groups.size,
      { builder with groups := builder.groups.push (HandlerGroup.ofHandlers handlers) }) := by
  have hfind : builder.groups.toList.findIdx? (· == HandlerGroup.ofHandlers handlers) = none := by
    rw [List.findIdx?_eq_none_iff]
    intro group hgroup
    rw [beq_eq_false_iff_ne]
    rintro rfl
    exact hmem hgroup
  rw [addGroup, hfind]

namespace Keeps

variable {builder : CodeItemBuilder} {given : List (List Handler × Nat)}

theorem mem_groups_iff (hkeeps : builder.Keeps given) (handlers : List Handler) :
    HandlerGroup.ofHandlers handlers ∈ builder.groups.toList ↔
      normalForm handlers ∈ normalForms given := by
  rw [← hkeeps.forms, ← HandlerGroup.toHandlers_ofHandlers,
    List.mem_map_of_injective HandlerGroup.toHandlers_injective]

theorem addGroup (hkeeps : builder.Keeps given) (handlers : List Handler) :
    (builder.addGroup handlers).2.Keeps ((handlers, (builder.addGroup handlers).1) :: given) := by
  have hrange : ∀ added : List Handler × Nat, ∀ range ∈ builder.tries.toList,
      ∃ call ∈ added :: given, call.2 = range.group := by
    intro added range hmem
    obtain ⟨call, hcall, hnumber⟩ := hkeeps.range range hmem
    exact ⟨call, List.mem_cons_of_mem added hcall, hnumber⟩
  by_cases hmem : HandlerGroup.ofHandlers handlers ∈ builder.groups.toList
  · obtain ⟨number, hnumber, hadd⟩ := addGroup_of_mem hmem
    rw [hadd]
    constructor
    · rw [normalForms_cons, if_pos ((hkeeps.mem_groups_iff handlers).mp hmem)]
      exact hkeeps.forms
    · intro call hcall
      rcases List.mem_cons.mp hcall with rfl | hbefore
      · exact hnumber
      · exact hkeeps.group call hbefore
    · exact hrange _
  · -- The new group gets the next number, and the earlier ones keep theirs.
    rw [addGroup_of_notMem hmem]
    constructor
    · rw [normalForms_cons, if_neg (mt (hkeeps.mem_groups_iff handlers).mpr hmem),
        Array.toList_push, List.map_append, hkeeps.forms, ← HandlerGroup.toHandlers_ofHandlers]
      rfl
    · intro call hcall
      rw [Array.toList_push]
      rcases List.mem_cons.mp hcall with rfl | hbefore
      · exact List.getElem?_concat_length
      · have hgroup := hkeeps.group call hbefore
        rw [List.getElem?_append_left (List.getElem?_eq_some_iff.mp hgroup).1]
        exact hgroup
    · exact hrange _

theorem addTry (hkeeps : builder.Keeps given) {handlers : List Handler} {number : Nat}
    (hgiven : (handlers, number) ∈ given) (start count : UInt32) :
    (builder.addTry start count number).Keeps given where
  forms := hkeeps.forms
  group := hkeeps.group
  range := by
    intro range hrange
    rw [CodeItemBuilder.addTry, Array.toList_push, List.mem_append, List.mem_singleton] at hrange
    rcases hrange with hbefore | rfl
    · exact hkeeps.range range hbefore
    · exact ⟨_, hgiven, rfl⟩

theorem exists_call (hkeeps : builder.Keeps given) {group : HandlerGroup}
    (hgroup : group ∈ builder.groups.toList) :
    ∃ call ∈ given, HandlerGroup.ofHandlers call.1 = group := by
  have hform := List.mem_map_of_mem (f := HandlerGroup.toHandlers) hgroup
  rw [hkeeps.forms, normalForms, List.mem_reverse, List.mem_dedup] at hform
  obtain ⟨call, hcall, hequal⟩ := List.mem_map.mp hform
  rw [← HandlerGroup.toHandlers_ofHandlers] at hequal
  exact ⟨call, hcall, HandlerGroup.toHandlers_injective hequal⟩

/-- The groups are distinct, so their numbers are told apart by their forms. -/
theorem number_eq_iff (hkeeps : builder.Keeps given) {first second : List Handler × Nat}
    (hfirst : first ∈ given) (hsecond : second ∈ given) :
    first.2 = second.2 ↔ normalForm first.1 = normalForm second.1 := by
  have hnodup : builder.groups.toList.Nodup := by
    apply List.Nodup.of_map HandlerGroup.toHandlers
    rw [hkeeps.forms]
    exact nodup_normalForms given
  have hgroup := hkeeps.group first hfirst
  have hbound : first.2 < builder.groups.toList.length := (List.getElem?_eq_some_iff.mp hgroup).1
  rw [← HandlerGroup.ofHandlers_eq_iff, ← List.getElem?_inj hbound hnodup, hgroup,
    hkeeps.group second hsecond, Option.some.injEq]

end Keeps

/-- The invariant holds of every builder that can be reached. -/
theorem Built.keeps {builder : CodeItemBuilder} {given : List (List Handler × Nat)}
    (hbuilt : Built builder given) : builder.Keeps given := by
  induction hbuilt with
  | empty => exact ⟨rfl, fun _ hcall => absurd hcall List.not_mem_nil,
      fun _ hrange => absurd hrange List.not_mem_nil⟩
  | setRegisters _ _ _ _ ih => exact ⟨ih.forms, ih.group, ih.range⟩
  | appendCode _ _ ih => exact ⟨ih.forms, ih.group, ih.range⟩
  | addGroup _ _ ih => exact ih.addGroup _
  | addTry _ hgiven start count ih => exact ih.addTry hgiven start count

theorem handlers_build {builder : CodeItemBuilder} (htries : builder.build.tries ≠ []) :
    builder.build.handlers = HandlerList.encode builder.groups.toList := by
  have hsome : builder.tries.isEmpty = false := by
    rw [← List.length_pos_iff, length_tries_build] at htries
    rw [← Bool.not_eq_true, Array.isEmpty_iff_size_eq_zero]
    exact htries.ne'
  rw [build, hsome]
  rfl

/-- A list of less than 4 GiB has no more groups than its count can name. -/
theorem countable_of_typed {builder : CodeItemBuilder} {given : List (List Handler × Nat)}
    (hkeeps : builder.Keeps given)
    (htyped : ∀ call ∈ given, (call.1.filter Handler.isTyped).length < 2 ^ 31)
    (hlength : (HandlerList.encode builder.groups.toList).length < 2 ^ 32) :
    builder.Countable where
  groups := Nat.lt_of_le_of_lt (HandlerList.length_le_length_encode _) hlength
  typed := by
    intro group hgroup
    obtain ⟨call, hcall, rfl⟩ := hkeeps.exists_call hgroup
    rw [HandlerGroup.length_typed_ofHandlers]
    exact htyped call hcall

/-- The try range at `index` is built as `item`, and the number that it was added
with is one that was given for `handlers`. -/
def Covers (builder : CodeItemBuilder) (given : List (List Handler × Nat)) (index : Nat)
    (item : TryItem) (handlers : List Handler) : Prop :=
  builder.build.tries[index]? = some item ∧
    ∃ range, builder.tries.toList[index]? = some range ∧ (handlers, range.group) ∈ given

namespace Covers

variable {builder : CodeItemBuilder} {given : List (List Handler × Nat)} {index : Nat}
  {item : TryItem} {handlers : List Handler}

theorem tries_ne_nil (hcovers : builder.Covers given index item handlers) :
    builder.build.tries ≠ [] :=
  List.ne_nil_of_mem (List.mem_of_getElem? hcovers.1)

/-- The offset of a try range is where the group of its handlers is written. -/
theorem exists_offset (hcovers : builder.Covers given index item handlers)
    (hkeeps : builder.Keeps given) (hlength : builder.build.handlers.length < 2 ^ 32) :
    ∃ number, (handlers, number) ∈ given ∧
      (HandlerList.offsets builder.groups.toList)[number]? = some item.handlerOffset.toNat ∧
      (HandlerGroup.ofHandlers handlers).encode <+:
        builder.build.handlers.drop item.handlerOffset.toNat := by
  have hhandlers := handlers_build hcovers.tries_ne_nil
  obtain ⟨hitem, range, hrange, hgiven⟩ := hcovers
  have hgroup : builder.groups.toList[range.group]? = some (.ofHandlers handlers) :=
    hkeeps.group _ hgiven
  obtain ⟨start, hstart, hbegins⟩ := HandlerList.encode_prefix_of_offsetsFrom
    (HandlerList.encodedSize builder.groups.toList) hgroup
  rw [← HandlerList.encode, ← hhandlers] at hbegins
  have hbound : start < 2 ^ 32 := by
    have hpositive := List.length_pos_iff.mpr (HandlerGroup.encode_ne_nil (.ofHandlers handlers))
    have hwithin := hbegins.length_le
    rw [List.length_drop] at hwithin
    omega
  have hoffset : item.handlerOffset.toNat = start := by
    rw [build, List.getElem?_map, hrange, Option.map_some, Option.some.injEq] at hitem
    rw [← hitem, HandlerList.offsets, hstart, Option.getD_some]
    exact UInt32.toNat_ofNat_of_lt' hbound
  rw [hoffset]
  exact ⟨range.group, hgiven, hstart, hbegins⟩

/-- From the offset of a range its own handlers are read. -/
theorem read (hcovers : builder.Covers given index item handlers) (hbuilt : Built builder given)
    (htyped : ∀ call ∈ given, (call.1.filter Handler.isTyped).length < 2 ^ 31)
    (hlength : builder.build.handlers.length < 2 ^ 32) :
    ∃ reader after,
      HandlerList.groupAt builder.build.handlers item.handlerOffset.toNat = .ok reader ∧
      reader.drain = (normalForm handlers, .ok after) := by
  obtain ⟨number, hgiven, -, hbegins⟩ := hcovers.exists_offset hbuilt.keeps hlength
  have hgroup := List.mem_of_getElem? (hbuilt.keeps.group _ hgiven)
  have hcount : (HandlerGroup.ofHandlers handlers).typed.length < 2 ^ 31 := by
    rw [HandlerGroup.length_typed_ofHandlers]
    exact htyped _ hgiven
  have hencodes := HandlerGroup.encodesGroup_encode (hbuilt.isProper _ hgroup) hcount
  rw [HandlerGroup.toHandlers_ofHandlers] at hencodes
  exact HandlerList.groupAt_of_encodesGroup hencodes hbegins

end Covers

end CodeItemBuilder

end DalvikPrepass
