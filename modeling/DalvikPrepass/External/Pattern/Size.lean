import DalvikPrepass.External.CharSet.Encoding
import DalvikPrepass.External.Pattern.Basic

/-!
# The size of patterns

The size of a pattern is what a machine takes that reads texts byte by byte, from
left to right or from right to left.  A state takes 32 bytes, a way out of it that
depends on the byte 8 bytes and one that does not 4 bytes.  Repetitions by number
are written out.
-/

namespace DalvikPrepass

namespace CharSet

/-- What can follow each first byte of some encodings. -/
def tails (encodings : List ByteRanges) : List (List ByteRanges) :=
  let heads := (encodings.filterMap List.head?).eraseDups
  heads.map fun head =>
    (encodings.filter fun encoding => encoding.head? = some head).map List.tail

/-- The states of a machine that reads some encodings of at most so many bytes, given
as what can follow, except for its last one. -/
def statesFor : (bytes : Nat) → List ByteRanges → List (List ByteRanges)
  | 0, _ => []
  | bytes + 1, encodings =>
      if encodings = [[]] then []
      else encodings :: (tails encodings).flatMap (statesFor bytes)

/-- The size of a machine that reads a character's bytes from the first to the last.
States with the same to follow are one. -/
def forwardSize (set : CharSet) : Nat :=
  let states := (statesFor 4 set.encodings).eraseDups
  32 + states.foldl (fun size state => size + 32 + 8 * (tails state).length) 0

/-- The size of a machine that reads a character's bytes from the last to the first.
It is built from the starts of encodings, each of which has a state. -/
def backwardSize (set : CharSet) : Nat :=
  let starts := set.encodings.flatMap fun encoding =>
    (List.range encoding.length).map fun length => encoding.take (length + 1)
  64 + 32 * starts.eraseDups.length + 4 * set.encodings.length

/-- The size of what reads one character of a set. -/
def size (backward : Bool) (set : CharSet) : Nat :=
  match set.ranges with
  | [] => 32
  | [(first, last)] =>
      if first = last then 32 * (Char.ofNat first).utf8Size
      else if set.isAscii then 72
      else if backward then set.backwardSize else set.forwardSize
  | ranges =>
      if set.isAscii then 64 + 8 * ranges.length
      else if backward then set.backwardSize else set.forwardSize

end CharSet

namespace Pattern

/-- Whether the pattern may fit an empty piece, as far as its form tells. -/
def mayBeEmpty : Pattern → Bool
  | empty | assertion _ => true
  | one set => set.bounds.isEmpty
  | sequence first second => first.mayBeEmpty && second.mayBeEmpty
  | choice left right => left.mayBeEmpty || right.mayBeEmpty
  | repeated pattern least _ => least = 0 || pattern.mayBeEmpty
  | group pattern => pattern.mayBeEmpty

/-- The size of a pattern; `inChoice` says whether it is an alternative, to which
leads a way out of the state that the alternatives share. -/
def sizeIn (backward inChoice : Bool) : Pattern → Nat
  | choice left right =>
      (if inChoice then 0 else 64) + left.sizeIn backward true + right.sizeIn backward true
  | pattern => (if inChoice then 4 else 0) + match pattern with
    | one set => set.size backward
    | sequence first second => first.sizeIn backward false + second.sizeIn backward false
    | repeated pattern least most =>
        let inside := pattern.sizeIn backward false
        match most with
        | none =>
            if least = 0 then inside + if pattern.mayBeEmpty then 112 else 40
            else least * inside + 40
        | some most =>
            if least = most then least * inside
            else if least = 0 && most = 1 then inside + 72
            else (if least = 0 then 32 else least * inside) + 32 + (most - least) * (inside + 40)
    | group pattern => pattern.sizeIn backward false + if backward then 0 else 64
    | _ => 32

/-- The size of the machine that reads from left to right, with the part that starts
it at any place. -/
def forwardSize (pattern : Pattern) : Nat :=
  208 + pattern.sizeIn false false

/-- The size of the machine that reads from right to left. -/
def backwardSize (pattern : Pattern) : Nat :=
  144 + pattern.sizeIn true false

/-- How large a pattern may be. -/
def sizeLimit : Nat := 10485760

end Pattern

end DalvikPrepass
