import DalvikPrepass.CodeItem.Basic
import DalvikPrepass.Handler.Encoding

/-!
# Writing method bodies

A code item is put together piece by piece and then encoded.  Handler groups are
kept once each: adding a group that is already there gives the number it has.
-/

namespace DalvikPrepass

namespace TryItem

/-- The eight bytes of an encoded try range.  The count and the handler offset
have two bytes each and lose their upper halves. -/
def encode (item : TryItem) : Bytes :=
  Bytes.ofWord32 item.start ++ Bytes.ofWord16 item.count.toUInt16 ++
    Bytes.ofWord16 item.handlerOffset.toUInt16

end TryItem

namespace CodeItem

/-- The sixteen bytes in front of the code.  The number of try ranges has two
bytes. -/
def encodeHeader (item : CodeItem) : Bytes :=
  Bytes.ofWord16 item.registers ++ Bytes.ofWord16 item.ins ++ Bytes.ofWord16 item.outs ++
    Bytes.ofWord16 (UInt16.ofNat item.tries.length) ++ Bytes.ofWord32 item.debugInfoOffset ++
    Bytes.ofWord32 (UInt32.ofNat item.code.length)

/-- The padding between an odd number of code units and the try ranges. -/
def padding (item : CodeItem) : Bytes :=
  if item.code.length % 2 = 0 then [] else [0, 0]

def encode (item : CodeItem) : Bytes :=
  item.encodeHeader ++ item.code.flatMap Bytes.ofWord16 ++
    if item.tries.isEmpty then []
    else item.padding ++ item.tries.flatMap TryItem.encode ++ item.handlers

end CodeItem

/-- A covered range and the number of its handler group. -/
structure TryRange where
  start : UInt32
  count : UInt32
  group : Nat
  deriving DecidableEq, Repr

structure CodeItemBuilder where
  registers : UInt16
  ins : UInt16
  outs : UInt16
  code : Array CodeUnit
  tries : Array TryRange
  /-- The distinct groups added, numbered from 0. -/
  groups : Array HandlerGroup
  deriving DecidableEq, Repr

namespace CodeItemBuilder

def empty : CodeItemBuilder :=
  ⟨0, 0, 0, #[], #[], #[]⟩

def setRegisters (builder : CodeItemBuilder) (registers ins outs : UInt16) : CodeItemBuilder :=
  { builder with registers, ins, outs }

def appendCode (builder : CodeItemBuilder) (units : List CodeUnit) : CodeItemBuilder :=
  { builder with code := builder.code.appendList units }

/-- Adds a group unless it is there already, and gives its number. -/
def addGroup (builder : CodeItemBuilder) (handlers : List Handler) : Nat × CodeItemBuilder :=
  let group := HandlerGroup.ofHandlers handlers
  match builder.groups.toList.findIdx? (· == group) with
  | some number => (number, builder)
  | none => (builder.groups.size, { builder with groups := builder.groups.push group })

/-- Covers `count` code units from `start` on with the group of that number. -/
def addTry (builder : CodeItemBuilder) (start count : UInt32) (group : Nat) : CodeItemBuilder :=
  { builder with tries := builder.tries.push ⟨start, count, group⟩ }

/-- The code item built so far.  Without try ranges no handler is kept. -/
def build (builder : CodeItemBuilder) : CodeItem :=
  let groups := builder.groups.toList
  let offsets := HandlerList.offsets groups
  { registers := builder.registers
    ins := builder.ins
    outs := builder.outs
    debugInfoOffset := 0
    code := builder.code.toList
    tries := builder.tries.toList.map fun range =>
      ⟨range.start, range.count, UInt32.ofNat (offsets[range.group]?.getD 0)⟩
    handlers := if builder.tries.isEmpty then [] else HandlerList.encode groups }

def encode (builder : CodeItemBuilder) : Bytes :=
  builder.build.encode

end CodeItemBuilder

end DalvikPrepass
