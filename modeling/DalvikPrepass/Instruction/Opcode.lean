import DalvikPrepass.Instruction.Format

/-!
# The opcode table

An instruction's opcode is the low byte of its first code unit.  The table gives
each opcode in use its mnemonic and format; the values left out are unused.
-/

namespace DalvikPrepass

abbrev CodeUnit := UInt16

structure Opcode where
  value : UInt8
  mnemonic : String
  format : Format
  deriving DecidableEq, Repr

namespace Opcode

/-- Entries for consecutive opcode values from `first` on. -/
def numbered : UInt8 → List (String × Format) → List Opcode
  | _, [] => []
  | first, (mnemonic, format) :: rest =>
      ⟨first, mnemonic, format⟩ :: numbered (first + 1) rest

/-- All opcodes in use, in ascending order of their values. -/
def table : List Opcode :=
  numbered 0x00
    [("nop", .f10x), ("move", .f12x), ("move/from16", .f22x), ("move/16", .f32x),
    ("move-wide", .f12x), ("move-wide/from16", .f22x), ("move-wide/16", .f32x),
    ("move-object", .f12x), ("move-object/from16", .f22x), ("move-object/16", .f32x),
    ("move-result", .f11x), ("move-result-wide", .f11x), ("move-result-object", .f11x),
    ("move-exception", .f11x), ("return-void", .f10x), ("return", .f11x),
    ("return-wide", .f11x), ("return-object", .f11x), ("const/4", .f11n), ("const/16", .f21s),
    ("const", .f31i), ("const/high16", .f21h), ("const-wide/16", .f21s),
    ("const-wide/32", .f31i), ("const-wide", .f51l), ("const-wide/high16", .f21h),
    ("const-string", .f21c), ("const-string/jumbo", .f31c), ("const-class", .f21c),
    ("monitor-enter", .f11x), ("monitor-exit", .f11x), ("check-cast", .f21c),
    ("instance-of", .f22c), ("array-length", .f12x), ("new-instance", .f21c),
    ("new-array", .f22c), ("filled-new-array", .f35c), ("filled-new-array/range", .f3rc),
    ("fill-array-data", .f31t), ("throw", .f11x), ("goto", .f10t), ("goto/16", .f20t),
    ("goto/32", .f30t), ("packed-switch", .f31t), ("sparse-switch", .f31t),
    ("cmpl-float", .f23x), ("cmpg-float", .f23x), ("cmpl-double", .f23x),
    ("cmpg-double", .f23x), ("cmp-long", .f23x), ("if-eq", .f22t), ("if-ne", .f22t),
    ("if-lt", .f22t), ("if-ge", .f22t), ("if-gt", .f22t), ("if-le", .f22t), ("if-eqz", .f21t),
    ("if-nez", .f21t), ("if-ltz", .f21t), ("if-gez", .f21t), ("if-gtz", .f21t),
    ("if-lez", .f21t)] ++
  numbered 0x44
    [("aget", .f23x), ("aget-wide", .f23x), ("aget-object", .f23x), ("aget-boolean", .f23x),
    ("aget-byte", .f23x), ("aget-char", .f23x), ("aget-short", .f23x), ("aput", .f23x),
    ("aput-wide", .f23x), ("aput-object", .f23x), ("aput-boolean", .f23x), ("aput-byte", .f23x),
    ("aput-char", .f23x), ("aput-short", .f23x), ("iget", .f22c), ("iget-wide", .f22c),
    ("iget-object", .f22c), ("iget-boolean", .f22c), ("iget-byte", .f22c), ("iget-char", .f22c),
    ("iget-short", .f22c), ("iput", .f22c), ("iput-wide", .f22c), ("iput-object", .f22c),
    ("iput-boolean", .f22c), ("iput-byte", .f22c), ("iput-char", .f22c), ("iput-short", .f22c),
    ("sget", .f21c), ("sget-wide", .f21c), ("sget-object", .f21c), ("sget-boolean", .f21c),
    ("sget-byte", .f21c), ("sget-char", .f21c), ("sget-short", .f21c), ("sput", .f21c),
    ("sput-wide", .f21c), ("sput-object", .f21c), ("sput-boolean", .f21c), ("sput-byte", .f21c),
    ("sput-char", .f21c), ("sput-short", .f21c), ("invoke-virtual", .f35c),
    ("invoke-super", .f35c), ("invoke-direct", .f35c), ("invoke-static", .f35c),
    ("invoke-interface", .f35c)] ++
  numbered 0x74
    [("invoke-virtual/range", .f3rc), ("invoke-super/range", .f3rc),
    ("invoke-direct/range", .f3rc), ("invoke-static/range", .f3rc),
    ("invoke-interface/range", .f3rc)] ++
  numbered 0x7b
    [("neg-int", .f12x), ("not-int", .f12x), ("neg-long", .f12x), ("not-long", .f12x),
    ("neg-float", .f12x), ("neg-double", .f12x), ("int-to-long", .f12x),
    ("int-to-float", .f12x), ("int-to-double", .f12x), ("long-to-int", .f12x),
    ("long-to-float", .f12x), ("long-to-double", .f12x), ("float-to-int", .f12x),
    ("float-to-long", .f12x), ("float-to-double", .f12x), ("double-to-int", .f12x),
    ("double-to-long", .f12x), ("double-to-float", .f12x), ("int-to-byte", .f12x),
    ("int-to-char", .f12x), ("int-to-short", .f12x), ("add-int", .f23x), ("sub-int", .f23x),
    ("mul-int", .f23x), ("div-int", .f23x), ("rem-int", .f23x), ("and-int", .f23x),
    ("or-int", .f23x), ("xor-int", .f23x), ("shl-int", .f23x), ("shr-int", .f23x),
    ("ushr-int", .f23x), ("add-long", .f23x), ("sub-long", .f23x), ("mul-long", .f23x),
    ("div-long", .f23x), ("rem-long", .f23x), ("and-long", .f23x), ("or-long", .f23x),
    ("xor-long", .f23x), ("shl-long", .f23x), ("shr-long", .f23x), ("ushr-long", .f23x),
    ("add-float", .f23x), ("sub-float", .f23x), ("mul-float", .f23x), ("div-float", .f23x),
    ("rem-float", .f23x), ("add-double", .f23x), ("sub-double", .f23x), ("mul-double", .f23x),
    ("div-double", .f23x), ("rem-double", .f23x), ("add-int/2addr", .f12x),
    ("sub-int/2addr", .f12x), ("mul-int/2addr", .f12x), ("div-int/2addr", .f12x),
    ("rem-int/2addr", .f12x), ("and-int/2addr", .f12x), ("or-int/2addr", .f12x),
    ("xor-int/2addr", .f12x), ("shl-int/2addr", .f12x), ("shr-int/2addr", .f12x),
    ("ushr-int/2addr", .f12x), ("add-long/2addr", .f12x), ("sub-long/2addr", .f12x),
    ("mul-long/2addr", .f12x), ("div-long/2addr", .f12x), ("rem-long/2addr", .f12x),
    ("and-long/2addr", .f12x), ("or-long/2addr", .f12x), ("xor-long/2addr", .f12x),
    ("shl-long/2addr", .f12x), ("shr-long/2addr", .f12x), ("ushr-long/2addr", .f12x),
    ("add-float/2addr", .f12x), ("sub-float/2addr", .f12x), ("mul-float/2addr", .f12x),
    ("div-float/2addr", .f12x), ("rem-float/2addr", .f12x), ("add-double/2addr", .f12x),
    ("sub-double/2addr", .f12x), ("mul-double/2addr", .f12x), ("div-double/2addr", .f12x),
    ("rem-double/2addr", .f12x), ("add-int/lit16", .f22s), ("rsub-int", .f22s),
    ("mul-int/lit16", .f22s), ("div-int/lit16", .f22s), ("rem-int/lit16", .f22s),
    ("and-int/lit16", .f22s), ("or-int/lit16", .f22s), ("xor-int/lit16", .f22s),
    ("add-int/lit8", .f22b), ("rsub-int/lit8", .f22b), ("mul-int/lit8", .f22b),
    ("div-int/lit8", .f22b), ("rem-int/lit8", .f22b), ("and-int/lit8", .f22b),
    ("or-int/lit8", .f22b), ("xor-int/lit8", .f22b), ("shl-int/lit8", .f22b),
    ("shr-int/lit8", .f22b), ("ushr-int/lit8", .f22b)]

/-- Size of an instruction with this opcode, in code units. -/
def size (opcode : Opcode) : Nat :=
  opcode.format.size

def lookup (value : UInt8) : Option Opcode :=
  table.find? fun opcode => opcode.value == value

/-- The opcode value in an instruction's first code unit. -/
def valueOf (unit : CodeUnit) : UInt8 :=
  unit.toUInt8

/-- The entry for an instruction's first code unit. -/
def ofUnit (unit : CodeUnit) : Option Opcode :=
  lookup (valueOf unit)

/-- The opcode of `new-instance`. -/
def newInstance : UInt8 := 0x22

end Opcode

end DalvikPrepass
