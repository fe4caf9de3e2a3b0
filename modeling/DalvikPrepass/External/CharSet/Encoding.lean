import DalvikPrepass.External.CharSet

/-!
# The encodings of a set's characters

In UTF-8 a character is one to four bytes.  The encodings of all characters in a
range are described by a few strings of byte ranges: to fit one of them is to
encode a character in the range.
-/

namespace DalvikPrepass.CharSet

/-- For each byte of an encoding the range that it lies in. -/
abbrev ByteRanges := List (Nat × Nat)

/-- How codes up to `last` from `first` on are encoded: in how many continuation
bytes of six bits each, and with which mark on the byte before them. -/
structure Form where
  first : Nat
  last : Nat
  continuations : Nat
  mark : Nat
  deriving DecidableEq, Repr

/-- All codes of characters, by their encodings' length. -/
def Form.list : List Form :=
  [⟨0x0, 0x7f, 0, 0⟩, ⟨0x80, 0x7ff, 1, 0xc0⟩, ⟨0x800, 0xd7ff, 2, 0xe0⟩,
    ⟨0xe000, 0xffff, 2, 0xe0⟩, ⟨0x10000, 0x10ffff, 3, 0xf0⟩]

/-- How many numbers can be written with so many continuation bytes alone. -/
def capacity : (continuations : Nat) → Nat
  | 0 => 1
  | continuations + 1 => 64 * capacity continuations

/-- The encodings of the numbers from `first` to `last`, with `mark` on the first of
their bytes.  Where the first byte is neither the lowest nor the highest, those
after it can be any. -/
def encodedNumbers : (continuations mark first last : Nat) → List ByteRanges
  | 0, mark, first, last => [[(mark + first, mark + last)]]
  | continuations + 1, mark, first, last =>
      let unit := capacity (continuations + 1)
      let behind (low high first last : Nat) : List ByteRanges :=
        (encodedNumbers continuations 0x80 first last).map ((mark + low, mark + high) :: ·)
      let low := first / unit
      let high := last / unit
      if low = high then behind low low (first % unit) (last % unit)
      else
        let lowIsWhole := first % unit = 0
        let highIsWhole := last % unit = unit - 1
        let wholeLow := if lowIsWhole then low else low + 1
        let wholeHigh := if highIsWhole then high else high - 1
        (if lowIsWhole then [] else behind low low (first % unit) (unit - 1)) ++
          (if wholeLow ≤ wholeHigh then behind wholeLow wholeHigh 0 (unit - 1) else []) ++
          (if highIsWhole then [] else behind high high 0 (last % unit))

/-- The encodings of the codes from `first` to `last`. -/
def encodedRange (first last : Nat) : List ByteRanges :=
  Form.list.flatMap fun form =>
    let first := max first form.first
    let last := min last form.last
    if first ≤ last then encodedNumbers form.continuations form.mark first last else []

def encodings (set : CharSet) : List ByteRanges :=
  set.ranges.flatMap fun bounds => encodedRange bounds.1 bounds.2

end DalvikPrepass.CharSet
