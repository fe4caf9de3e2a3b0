/-!
# Instruction formats

A format fixes how an instruction lays out its operands.  Its name says how: a
digit for the size in code units, a digit or letter for the registers, and a
letter for what else is stored (`t` is a branch offset).
-/

namespace DalvikPrepass

inductive Format where
  | f10x | f12x | f11n | f11x | f10t
  | f20t | f22x | f21t | f21s | f21h | f21c | f23x | f22b | f22t | f22s | f22c
  | f32x | f30t | f31t | f31i | f31c | f35c | f3rc
  | f51l
  deriving DecidableEq, Repr

namespace Format

def name : Format → String
  | f10x => "10x" | f12x => "12x" | f11n => "11n" | f11x => "11x" | f10t => "10t"
  | f20t => "20t" | f22x => "22x" | f21t => "21t" | f21s => "21s" | f21h => "21h"
  | f21c => "21c" | f23x => "23x" | f22b => "22b" | f22t => "22t" | f22s => "22s"
  | f22c => "22c"
  | f32x => "32x" | f30t => "30t" | f31t => "31t" | f31i => "31i" | f31c => "31c"
  | f35c => "35c" | f3rc => "3rc"
  | f51l => "51l"

/-- Size of an instruction of this format, in code units. -/
def size : Format → Nat
  | f10x | f12x | f11n | f11x | f10t => 1
  | f20t | f22x | f21t | f21s | f21h | f21c | f23x | f22b | f22t | f22s | f22c => 2
  | f32x | f30t | f31t | f31i | f31c | f35c | f3rc => 3
  | f51l => 5

/-- Whether the format carries a branch offset relative to the instruction.
The offset of `31t` leads to a payload and is none. -/
def isBranch : Format → Bool
  | f10t | f20t | f30t | f21t | f22t => true
  | _ => false

end Format

end DalvikPrepass
