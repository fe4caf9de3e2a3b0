/-!
# Sets of characters

A set is kept as the codes at which a walk through all characters enters or
leaves it.  Sets are then joined, cut and complemented in one pass over those
codes, and the ranges of a set can be read off.  White space is what Unicode
counts as such; letters and digits here are those of ASCII.

The modules on sets of characters belong to those on patterns and stand for a
library as these do.
-/

namespace DalvikPrepass

structure CharSet where
  /-- The codes where membership changes, lowest first.  A character is in the set
  if an odd number of them is not above its code. -/
  bounds : List Nat
  deriving DecidableEq, Repr

namespace CharSet

def contains (set : CharSet) (char : Char) : Bool :=
  set.bounds.countP (· ≤ char.toNat) % 2 = 1

def empty : CharSet :=
  ⟨[]⟩

/-- Where a walk leaves a range that ends with `last`.  No characters have the codes
0xd800 to 0xdfff, and none is above 0x10ffff. -/
def boundAfter (last : Char) : List Nat :=
  if last.toNat = 0x10ffff then []
  else if last.toNat = 0xd7ff then [0xe000]
  else [last.toNat + 1]

/-- The characters from `first` to `last`, both included. -/
def range (first last : Char) : CharSet :=
  ⟨first.toNat :: boundAfter last⟩

def singleton (char : Char) : CharSet :=
  range char char

/-- The bounds of the characters whose membership in two sets is as `keep` says,
from the bounds that are left of these two; `inLeft` and `inRight` say whether the
walk is inside of them before. -/
def combineFrom (keep : Bool → Bool → Bool) (inLeft inRight : Bool) :
    (left right : List Nat) → List Nat
  | [], [] => []
  | bound :: left, [] => change bound (!inLeft) inRight (combineFrom keep (!inLeft) inRight left [])
  | [], bound :: right =>
      change bound inLeft (!inRight) (combineFrom keep inLeft (!inRight) [] right)
  | leftBound :: left, rightBound :: right =>
      if leftBound < rightBound then
        change leftBound (!inLeft) inRight
          (combineFrom keep (!inLeft) inRight left (rightBound :: right))
      else if rightBound < leftBound then
        change rightBound inLeft (!inRight)
          (combineFrom keep inLeft (!inRight) (leftBound :: left) right)
      else
        change leftBound (!inLeft) (!inRight) (combineFrom keep (!inLeft) (!inRight) left right)
termination_by left right => left.length + right.length
where
  /-- Puts `bound` in front if membership changes there. -/
  change (bound : Nat) (nowLeft nowRight : Bool) (later : List Nat) : List Nat :=
    if keep nowLeft nowRight = keep inLeft inRight then later else bound :: later

def union (left right : CharSet) : CharSet :=
  ⟨combineFrom (· || ·) false false left.bounds right.bounds⟩

def intersection (left right : CharSet) : CharSet :=
  ⟨combineFrom (· && ·) false false left.bounds right.bounds⟩

/-- What is in the first set alone. -/
def difference (left right : CharSet) : CharSet :=
  ⟨combineFrom (fun inLeft inRight => inLeft && !inRight) false false left.bounds right.bounds⟩

/-- What is in just one of the sets. -/
def symmetricDifference (left right : CharSet) : CharSet :=
  ⟨combineFrom (· != ·) false false left.bounds right.bounds⟩

def complement (set : CharSet) : CharSet :=
  match set.bounds with
  | 0 :: bounds => ⟨bounds⟩
  | bounds => ⟨0 :: bounds⟩

/-- All characters in one of these ranges. -/
def ofRanges (ranges : List (Char × Char)) : CharSet :=
  ranges.foldl (fun set bounds => set.union (range bounds.1 bounds.2)) empty

/-- The ranges of codes between bounds, lowest first. -/
def rangesOf : (bounds : List Nat) → List (Nat × Nat)
  | first :: bound :: bounds => (first, bound - 1) :: rangesOf bounds
  | [first] => [(first, 0x10ffff)]
  | [] => []

def ranges (set : CharSet) : List (Nat × Nat) :=
  rangesOf set.bounds

/-- Whether there are ASCII characters alone in the set. -/
def isAscii (set : CharSet) : Bool :=
  set.ranges.all fun bounds => bounds.2 ≤ 0x7f

def all : CharSet :=
  complement empty

def digits : CharSet :=
  range '0' '9'

def upperLetters : CharSet :=
  range 'A' 'Z'

def lowerLetters : CharSet :=
  range 'a' 'z'

/-- The characters of words. -/
def word : CharSet :=
  ofRanges [('0', '9'), ('A', 'Z'), ('_', '_'), ('a', 'z')]

/-- The characters that are in the set in upper or in lower case. -/
def eitherCase (set : CharSet) : CharSet :=
  let lowered := (set.intersection upperLetters).bounds.map (· + 32)
  let raised := (set.intersection lowerLetters).bounds.map (· - 32)
  (set.union ⟨lowered⟩).union ⟨raised⟩

def whiteSpace : CharSet :=
  ofRanges [('\t', '\r'), (' ', ' '), ('\u0085', '\u0085'), ('\u00a0', '\u00a0'),
    ('\u1680', '\u1680'), ('\u2000', '\u200a'), ('\u2028', '\u2029'), ('\u202f', '\u202f'),
    ('\u205f', '\u205f'), ('\u3000', '\u3000')]

/-- `text` without the characters of the set at its ends. -/
def trim (set : CharSet) (text : String) : String :=
  let start := text.toList.dropWhile set.contains
  String.ofList (start.reverse.dropWhile set.contains).reverse

end CharSet

end DalvikPrepass
