/-!
# Instruction annotations

The pre-pass keeps one 32-bit word for each code unit of a method.  The low 16
bits hold the width of the instruction that starts there, zero if none does;
bit 16 marks an instruction inside a try range, bit 17 one that a branch or a
handler leads to.  Reading outside the array finds nothing; writing there is a
fault.
-/

namespace DalvikPrepass

/-- A step that the pre-pass must never take.  A fault tells nothing about the
method; it says that the annotations do not belong to it. -/
inductive Fault where
  /-- There are `annotations` words for `units` code units. -/
  | sizeMismatch (annotations units : Nat)
  /-- A word was to be written at `address`, outside the array. -/
  | outOfBounds (address : Nat)
  /-- No instruction starts at `address`, which the instruction before it leads
  to, inside a try range. -/
  | gapInTry (address : Nat)
  deriving DecidableEq, Repr

/-- Marks that are kept above the width. -/
inductive Mark where
  | inTry
  | branchTarget
  deriving DecidableEq, Repr

namespace Mark

/-- The bit that stands for the mark. -/
def bit : Mark → UInt32
  | inTry => 0x10000
  | branchTarget => 0x20000

def name : Mark → String
  | inTry => "IN_TRY"
  | branchTarget => "BRANCH_TARGET"

def all : List Mark :=
  [inTry, branchTarget]

end Mark

structure Annotations where
  words : Array UInt32
  deriving DecidableEq, Repr

namespace Annotations

/-- The bits of a word that hold the width. -/
def widthMask : UInt32 := 0xffff

/-- The widest instruction whose width fits in a word. -/
def maxWidth : Nat := 0xffff

/-- Annotations for `size` code units, with nothing known yet. -/
def blank (size : Nat) : Annotations :=
  ⟨Array.replicate size 0⟩

def size (annotations : Annotations) : Nat :=
  annotations.words.size

def isEmpty (annotations : Annotations) : Bool :=
  annotations.words.isEmpty

/-- Forgets every annotation. -/
def reset (annotations : Annotations) : Annotations :=
  blank annotations.size

/-- The word at an address; zero outside the array. -/
def word (annotations : Annotations) (address : Nat) : UInt32 :=
  annotations.words.getD address 0

/-- Width of the instruction that starts at `address`, zero if none does. -/
def width (annotations : Annotations) (address : Nat) : Nat :=
  (annotations.word address &&& widthMask).toNat

def isStart (annotations : Annotations) (address : Nat) : Bool :=
  annotations.width address != 0

def has (annotations : Annotations) (mark : Mark) (address : Nat) : Bool :=
  annotations.word address &&& mark.bit != 0

/-- The marks that an address has. -/
def marks (annotations : Annotations) (address : Nat) : List Mark :=
  Mark.all.filter fun mark => annotations.has mark address

/-- Replaces the word at `address`. -/
def update (annotations : Annotations) (address : Nat) (change : UInt32 → UInt32) :
    Except Fault Annotations :=
  if address < annotations.words.size then
    .ok ⟨annotations.words.modify address change⟩
  else
    .error (.outOfBounds address)

def setWidth (annotations : Annotations) (address : Nat) (width : UInt16) :
    Except Fault Annotations :=
  annotations.update address fun word => (word &&& ~~~widthMask) ||| width.toUInt32

def setMark (annotations : Annotations) (mark : Mark) (address : Nat) (value : Bool) :
    Except Fault Annotations :=
  annotations.update address fun word =>
    if value then word ||| mark.bit else word &&& ~~~mark.bit

/-- Address and width of every instruction start, in address order. -/
def starts (annotations : Annotations) : List (Nat × Nat) :=
  (annotations.words.toList.zipIdx.map fun (word, address) =>
    (address, (word &&& widthMask).toNat)).filter fun (_, width) => width != 0

/-- Every address that has a mark, in order. -/
def marked (annotations : Annotations) (mark : Mark) : List Nat :=
  (annotations.words.toList.zipIdx.filter fun (word, _) => word &&& mark.bit != 0).map Prod.snd

end Annotations

end DalvikPrepass
