import Mathlib
import DalvikPrepass.Proofs.AnnotationWords

/-!
# Annotations as records

For each address a `Notes` table keeps a record of a width and two marks, each
in a field of its own.  Packed into words the annotations cannot be told from
such a table: after the same edits every reading gives the same.  As no other
bits are ever set, two annotations are equal just if their tables are.
-/

namespace DalvikPrepass

/-- What is noted of one address. -/
structure Note where
  width : UInt16
  inTry : Bool
  branchTarget : Bool
  deriving DecidableEq, Repr

namespace Note

def blank : Note := ⟨0, false, false⟩

def has (note : Note) : Mark → Bool
  | .inTry => note.inTry
  | .branchTarget => note.branchTarget

end Note

/-- A note for each code unit. -/
structure Notes where
  entries : List Note
  deriving DecidableEq, Repr

namespace Notes

def blank (size : Nat) : Notes :=
  ⟨List.replicate size .blank⟩

def size (notes : Notes) : Nat :=
  notes.entries.length

def reset (notes : Notes) : Notes :=
  blank notes.size

/-- The note of an address; a blank one outside the table. -/
def note (notes : Notes) (address : Nat) : Note :=
  notes.entries.getD address .blank

def width (notes : Notes) (address : Nat) : Nat :=
  (notes.note address).width.toNat

def has (notes : Notes) (mark : Mark) (address : Nat) : Bool :=
  (notes.note address).has mark

/-- Address and width of every entry whose width is not zero, in address
order. -/
def starts (notes : Notes) : List (Nat × Nat) :=
  ((List.range notes.size).map fun address => (address, notes.width address)).filter
    fun extent => extent.2 != 0

/-- Changes the note of an address in the table. -/
def update (notes : Notes) (address : Nat) (change : Note → Note) : Except Fault Notes :=
  if address < notes.size then
    .ok ⟨notes.entries.modify address change⟩
  else
    .error (.outOfBounds address)

end Notes

/-! ## Edits -/

/-- A value for one of the fields of an address. -/
inductive FieldWrite where
  | setWidth (width : UInt16)
  | setMark (mark : Mark) (value : Bool)
  deriving DecidableEq, Repr

namespace FieldWrite

/-- The mark that is written; none if it is the width. -/
def mark? : FieldWrite → Option Mark
  | setWidth _ => none
  | setMark mark _ => some mark

def onNote : FieldWrite → Note → Note
  | setWidth width, note => { note with width }
  | setMark .inTry value, note => { note with inTry := value }
  | setMark .branchTarget value, note => { note with branchTarget := value }

def onAnnotations (write : FieldWrite) (annotations : Annotations) (address : Nat) :
    Except Fault Annotations :=
  match write with
  | setWidth width => annotations.setWidth address width
  | setMark mark value => annotations.setMark mark address value

end FieldWrite

/-- A change that can be asked for. -/
inductive Edit where
  | reset
  | write (address : Nat) (field : FieldWrite)
  deriving DecidableEq, Repr

namespace Edit

def onAnnotations (edit : Edit) (annotations : Annotations) : Except Fault Annotations :=
  match edit with
  | reset => .ok annotations.reset
  | write address field => field.onAnnotations annotations address

def onNotes (edit : Edit) (notes : Notes) : Except Fault Notes :=
  match edit with
  | reset => .ok notes.reset
  | write address field => notes.update address field.onNote

end Edit

/-- What is there after an attempt at a change.  A fault leaves everything as it
was. -/
def keepOnFault {α : Type} (before : α) (outcome : Except Fault α) : α :=
  match outcome with
  | .ok after => after
  | .error _ => before

/-- The annotations after some edits, one after the other. -/
def Annotations.edited (annotations : Annotations) (edits : List Edit) : Annotations :=
  edits.foldl (fun before edit => keepOnFault before (edit.onAnnotations before)) annotations

/-- The table after some edits, one after the other. -/
def Notes.edited (notes : Notes) (edits : List Edit) : Notes :=
  edits.foldl (fun before edit => keepOnFault before (edit.onNotes before)) notes

/-! ## Tables -/

namespace Notes

theorem size_blank (size : Nat) : (blank size).size = size :=
  List.length_replicate

theorem note_blank (size address : Nat) : (blank size).note address = .blank := by
  rw [note, blank, List.getD_eq_getElem?_getD, List.getElem?_replicate]
  split <;> rfl

theorem note_modify {notes : Notes} {address : Nat} (change : Note → Note)
    (haddress : address < notes.size) :
    (mk (notes.entries.modify address change)).note =
      Function.update notes.note address (change (notes.note address)) := by
  funext other
  rw [note, List.getD_eq_getElem?_getD, List.getElem?_modify]
  by_cases hother : other = address
  · subst hother
    rw [Function.update_self, note, List.getD_eq_getElem?_getD, List.getElem?_eq_getElem haddress]
    simp
  · rw [Function.update_of_ne hother, note, List.getD_eq_getElem?_getD]
    simp [Ne.symm hother]

theorem width_modify {notes : Notes} {address : Nat} (change : Note → Note)
    (haddress : address < notes.size) :
    (mk (notes.entries.modify address change)).width =
      Function.update notes.width address (change (notes.note address)).width.toNat := by
  have hnote := note_modify change haddress
  have hread := Function.comp_update (fun note : Note => note.width.toNat) notes.note address
    (change (notes.note address))
  rw [← hnote] at hread
  exact hread

theorem has_modify {notes : Notes} {address : Nat} (change : Note → Note)
    (haddress : address < notes.size) (mark : Mark) :
    (mk (notes.entries.modify address change)).has mark =
      Function.update (notes.has mark) address ((change (notes.note address)).has mark) := by
  have hnote := note_modify change haddress
  have hread := Function.comp_update (fun note : Note => note.has mark) notes.note address
    (change (notes.note address))
  rw [← hnote] at hread
  exact hread

/-- A table is known by its size and what is read from it. -/
theorem eq_of_reads {notes others : Notes} (hsize : notes.size = others.size)
    (hwidth : notes.width = others.width) (hhas : notes.has = others.has) : notes = others := by
  have hnote : notes.note = others.note := by
    funext address
    have hsame := UInt16.toNat_inj.mp (congrFun hwidth address)
    have hinTry := congrFun (congrFun hhas .inTry) address
    have htarget := congrFun (congrFun hhas .branchTarget) address
    exact Note.mk.injEq .. ▸ ⟨hsame, hinTry, htarget⟩
  obtain ⟨entries⟩ := notes
  obtain ⟨otherEntries⟩ := others
  rw [mk.injEq]
  apply List.ext_getElem hsize
  intro address hleft hright
  simpa [note, hleft, hright] using congrFun hnote address

/-- Outside the table there is nothing to change. -/
theorem keepOnFault_update (notes : Notes) (address : Nat) (change : Note → Note) :
    keepOnFault notes (notes.update address change) =
      ⟨notes.entries.modify address change⟩ := by
  rw [update]
  split
  · rfl
  · rename_i hbeyond
    rw [List.modify_eq_self (Nat.le_of_not_lt hbeyond)]
    rfl

theorem edited_append (notes : Notes) (edits others : List Edit) :
    notes.edited (edits ++ others) = (notes.edited edits).edited others :=
  List.foldl_append

end Notes

theorem FieldWrite.has_onNote_setWidth (width : UInt16) (note : Note) (mark : Mark) :
    ((setWidth width).onNote note).has mark = note.has mark := by
  cases mark <;> rfl

theorem FieldWrite.width_onNote_setMark (mark : Mark) (value : Bool) (note : Note) :
    ((setMark mark value).onNote note).width = note.width := by
  cases mark <;> rfl

theorem FieldWrite.has_onNote_setMark (mark : Mark) (value : Bool) (note : Note) (other : Mark) :
    ((setMark mark value).onNote note).has other =
      if other = mark then value else note.has other := by
  cases mark <;> cases other <;> rfl

/-- Writes to different fields of a note can be exchanged. -/
theorem FieldWrite.onNote_comm {first second : FieldWrite} (hmark : first.mark? ≠ second.mark?)
    (note : Note) : first.onNote (second.onNote note) = second.onNote (first.onNote note) := by
  cases first with
  | setWidth width =>
      cases second with
      | setWidth => exact absurd rfl hmark
      | setMark mark => cases mark <;> rfl
  | setMark mark value =>
      cases second with
      | setWidth => cases mark <;> rfl
      | setMark other => cases mark <;> cases other <;> first | rfl | exact absurd rfl hmark

/-- In a table the fields are independent of one another, and so are the
entries. -/
theorem Notes.edited_swap (notes : Notes) {address place : Nat} {first second : FieldWrite}
    (happart : address ≠ place ∨ first.mark? ≠ second.mark?) :
    notes.edited [.write address first, .write place second] =
      notes.edited [.write place second, .write address first] := by
  simp only [edited, List.foldl_cons, List.foldl_nil, Edit.onNotes, keepOnFault_update, mk.injEq]
  by_cases hplace : address = place
  · subst hplace
    have hmark := happart.resolve_left (not_not_intro rfl)
    rw [List.modify_modify_eq, List.modify_modify_eq]
    apply congrArg (notes.entries.modify address)
    funext note
    exact (FieldWrite.onNote_comm hmark note).symm
  · exact List.modify_modify_ne _ _ _ hplace

/-! ## Packed words and tables -/

theorem FieldWrite.exists_onAnnotations (field : FieldWrite) {annotations : Annotations}
    {address : Nat} (haddress : address < annotations.size) :
    ∃ updated, field.onAnnotations annotations address = .ok updated := by
  cases field <;> exact Annotations.update_of_lt _ haddress

theorem FieldWrite.onAnnotations_of_size_le (field : FieldWrite) {annotations : Annotations}
    {address : Nat} (haddress : annotations.size ≤ address) :
    field.onAnnotations annotations address = .error (.outOfBounds address) := by
  cases field <;> exact if_neg (Nat.not_lt.mpr haddress)

namespace Annotations

theorem spare_of_setWidth {annotations updated : Annotations} {address : Nat} {width : UInt16}
    (hset : annotations.setWidth address width = .ok updated) :
    updated.spare = annotations.spare := by
  funext other
  rw [spare_eq_aboveWidth, spare_eq_aboveWidth, aboveWidth_of_setWidth hset]

/-- The annotations say the same as the table and have no other bits. -/
structure Represents (annotations : Annotations) (notes : Notes) : Prop where
  size : annotations.size = notes.size
  width : annotations.width = notes.width
  has : annotations.has = notes.has
  spare : annotations.spare = fun _ => 0

/-- Blank annotations stand for a blank table. -/
theorem represents_blank (size : Nat) : (blank size).Represents (.blank size) where
  size := by rw [size_blank, Notes.size_blank]
  width := by
    funext address
    rw [width_blank, Notes.width, Notes.note_blank]
    rfl
  has := by
    funext mark address
    rw [has_blank, Notes.has, Notes.note_blank]
    cases mark <;> rfl
  spare := by
    funext address
    rw [Annotations.spare, word_blank, UInt32.zero_and]

namespace Represents

variable {annotations updated : Annotations} {notes : Notes} {address : Nat}

theorem setWidth (hrepresents : annotations.Represents notes) {width : UInt16}
    (hset : annotations.setWidth address width = .ok updated) (haddress : address < notes.size) :
    updated.Represents ⟨notes.entries.modify address (FieldWrite.setWidth width).onNote⟩ := by
  constructor
  · rw [size_of_update hset, hrepresents.size, Notes.size, Notes.size, List.length_modify]
  · rw [width_of_setWidth hset, hrepresents.width, Notes.width_modify _ haddress]
    rfl
  · funext mark
    rw [has_of_setWidth hset, hrepresents.has, Notes.has_modify _ haddress,
      FieldWrite.has_onNote_setWidth]
    exact (Function.update_eq_self address _).symm
  · rw [spare_of_setWidth hset, hrepresents.spare]

theorem setMark (hrepresents : annotations.Represents notes) {mark : Mark} {value : Bool}
    (hset : annotations.setMark mark address value = .ok updated) (haddress : address < notes.size) :
    updated.Represents ⟨notes.entries.modify address (FieldWrite.setMark mark value).onNote⟩ := by
  constructor
  · rw [size_of_update hset, hrepresents.size, Notes.size, Notes.size, List.length_modify]
  · rw [width_of_setMark hset, hrepresents.width, Notes.width_modify _ haddress,
      FieldWrite.width_onNote_setMark]
    exact (Function.update_eq_self address _).symm
  · funext other
    rw [Notes.has_modify _ haddress, FieldWrite.has_onNote_setMark]
    by_cases hother : other = mark
    · rw [if_pos hother, hother, has_of_setMark hset, hrepresents.has]
    · rw [if_neg hother, has_of_setMark_of_ne hset hother, hrepresents.has]
      exact (Function.update_eq_self address _).symm
  · rw [spare_of_setMark hset, hrepresents.spare]

/-- A packed word and a note are written in step. -/
theorem write (hrepresents : annotations.Represents notes) {field : FieldWrite}
    (hwrite : field.onAnnotations annotations address = .ok updated)
    (haddress : address < notes.size) :
    updated.Represents ⟨notes.entries.modify address field.onNote⟩ := by
  cases field with
  | setWidth => exact hrepresents.setWidth hwrite haddress
  | setMark => exact hrepresents.setMark hwrite haddress

/-- An edit succeeds on both sides, and what comes out corresponds again, or it is
the same fault on both sides. -/
theorem edit (hrepresents : annotations.Represents notes) (edit : Edit) :
    (∃ updated changed, edit.onAnnotations annotations = .ok updated ∧
        edit.onNotes notes = .ok changed ∧ updated.Represents changed) ∨
      ∃ fault, edit.onAnnotations annotations = .error fault ∧
        edit.onNotes notes = .error fault := by
  cases edit with
  | reset =>
      refine .inl ⟨annotations.reset, notes.reset, rfl, rfl, ?_⟩
      rw [reset, Notes.reset, hrepresents.size]
      exact represents_blank notes.size
  | write address field =>
      have hsize := hrepresents.size
      by_cases haddress : address < notes.size
      · obtain ⟨updated, hwrite⟩ := field.exists_onAnnotations (hsize ▸ haddress)
        exact .inl ⟨updated, _, hwrite, if_pos haddress, hrepresents.write hwrite haddress⟩
      · refine .inr ⟨.outOfBounds address, field.onAnnotations_of_size_le ?_, if_neg haddress⟩
        rw [hsize]
        exact Nat.le_of_not_lt haddress

/-- Whatever the edits are, packed words and notes stay in step. -/
theorem edited (hrepresents : annotations.Represents notes) (edits : List Edit) :
    (annotations.edited edits).Represents (notes.edited edits) := by
  induction edits generalizing annotations notes with
  | nil => exact hrepresents
  | cons first edits ih =>
      rw [Annotations.edited, Notes.edited, List.foldl_cons, List.foldl_cons]
      rcases hrepresents.edit first with
        ⟨updated, changed, hupdated, hchanged, hafter⟩ | ⟨fault, hleft, hright⟩
      · rw [hupdated, hchanged]
        exact ih hafter
      · rw [hleft, hright]
        exact ih hrepresents

/-- Annotations that say the same as a table are known by it. -/
theorem eq_iff {others : Annotations} {otherNotes : Notes}
    (hrepresents : annotations.Represents notes) (hothers : others.Represents otherNotes) :
    annotations = others ↔ notes = otherNotes := by
  constructor
  · rintro rfl
    apply Notes.eq_of_reads
    · exact hrepresents.size.symm.trans hothers.size
    · exact hrepresents.width.symm.trans hothers.width
    · exact hrepresents.has.symm.trans hothers.has
  · rintro rfl
    apply eq_of_parts
    · exact hrepresents.size.trans hothers.size.symm
    · exact hrepresents.width.trans hothers.width.symm
    · exact hrepresents.has.trans hothers.has.symm
    · exact hrepresents.spare.trans hothers.spare.symm

/-- No edit sets a bit above the marks. -/
theorem word_lt (hrepresents : annotations.Represents notes) (address : Nat) :
    (annotations.word address).toNat < 2 ^ 18 := by
  have hspare : annotations.word address &&& spareMask = 0 := congrFun hrepresents.spare address
  rw [← and_masks_or (annotations.word address), hspare, UInt32.or_zero, UInt32.toNat_or,
    UInt32.toNat_or]
  have hmask {mask : UInt32} (hsmall : mask.toNat < 2 ^ 18) :
      (annotations.word address &&& mask).toNat < 2 ^ 18 := by
    rw [UInt32.toNat_and]
    exact Nat.and_le_right.trans_lt hsmall
  exact Nat.or_lt_two_pow (Nat.or_lt_two_pow (hmask (by decide)) (hmask (by decide)))
    (hmask (by decide))

end Represents

/-- Whatever is read from the annotations is what the table holds, edits fail
alike on both, and the bits above the marks are not used. -/
structure ReadsAs (annotations : Annotations) (notes : Notes) : Prop where
  size : annotations.size = notes.size
  isEmpty : annotations.isEmpty = (notes.size == 0)
  width : ∀ address, annotations.width address = notes.width address
  isStart : ∀ address, annotations.isStart address = (notes.width address != 0)
  has : ∀ mark address, annotations.has mark address = notes.has mark address
  marks : ∀ address,
    annotations.marks address = Mark.all.filter fun mark => notes.has mark address
  starts : annotations.starts = notes.starts
  faults : ∀ edit : Edit, (edit.onAnnotations annotations).map (fun _ => ()) =
    (edit.onNotes notes).map fun _ => ()
  unused : ∀ address bit, 17 < bit → (annotations.word address).toNat.testBit bit = false

/-- All that can be read of packed words is what the table holds. -/
theorem Represents.readsAs {annotations : Annotations} {notes : Notes}
    (hrepresents : annotations.Represents notes) : annotations.ReadsAs notes where
  size := hrepresents.size
  isEmpty := by
    rw [← hrepresents.size, Annotations.isEmpty, Array.isEmpty, beq_eq_decide]
    rfl
  width := congrFun hrepresents.width
  isStart address := by rw [isStart, hrepresents.width]
  has mark := congrFun (congrFun hrepresents.has mark)
  marks address := by
    rw [marks, hrepresents.has]
  starts := by rw [starts_eq, Notes.starts, hrepresents.size, hrepresents.width]
  faults edit := by
    rcases hrepresents.edit edit with ⟨updated, changed, hleft, hright, -⟩ | ⟨fault, hleft, hright⟩
    · rw [hleft, hright]
      rfl
    · rw [hleft, hright]
      rfl
  unused address bit hbit := by
    apply Nat.testBit_lt_two_pow
    exact (hrepresents.word_lt address).trans_le (Nat.pow_le_pow_right Nat.two_pos hbit)

/-- After any edits of blank annotations they read as the table does after the same
edits.  Two such annotations are equal just if their tables are, so writes to
different addresses or to different fields may change places. -/
theorem edited_blank_readsAs (size : Nat) (edits : List Edit) :
    ((blank size).edited edits).ReadsAs ((Notes.blank size).edited edits) ∧
      (∀ (other : Nat) (others : List Edit),
        (blank size).edited edits = (blank other).edited others ↔
          (Notes.blank size).edited edits = (Notes.blank other).edited others) ∧
      ∀ (address place : Nat) (first second : FieldWrite),
        address ≠ place ∨ first.mark? ≠ second.mark? →
        (blank size).edited (edits ++ [.write address first, .write place second]) =
          (blank size).edited (edits ++ [.write place second, .write address first]) := by
  have hrepresents (size : Nat) (edits : List Edit) :=
    (represents_blank size).edited edits
  refine ⟨(hrepresents size edits).readsAs, ?_, ?_⟩
  · intro other others
    exact (hrepresents size edits).eq_iff (hrepresents other others)
  · intro address place first second happart
    apply ((hrepresents size _).eq_iff (hrepresents size _)).mpr
    rw [Notes.edited_append, Notes.edited_append]
    exact Notes.edited_swap _ happart

end Annotations

end DalvikPrepass
