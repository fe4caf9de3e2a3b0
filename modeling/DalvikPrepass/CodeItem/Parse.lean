import DalvikPrepass.CodeItem.Basic

/-!
# Reading method bodies

The layout of a code item: a header of 16 bytes, the code units, and, if there
are try ranges, two bytes of padding after an odd number of code units, eight
bytes for each range, and the handler list.  Nothing in the header tells how
long the handler list is; it is walked to find its end.
-/

namespace DalvikPrepass

namespace TryItem

/-- Size of an encoded try range, in bytes. -/
def encodedSize : Nat := 8

/-- The try range in the first eight bytes. -/
def ofBytes (bytes : Bytes) : TryItem where
  start := Bytes.word32 bytes
  count := (Bytes.word16 (bytes.drop 4)).toUInt32
  handlerOffset := (Bytes.word16 (bytes.drop 6)).toUInt32

end TryItem

namespace CodeItem

/-- The sixteen bytes in front of the code. -/
structure Header where
  registers : UInt16
  ins : UInt16
  outs : UInt16
  tryCount : UInt16
  debugInfoOffset : UInt32
  unitCount : UInt32
  deriving DecidableEq, Repr

def Header.encodedSize : Nat := 16

def Header.ofBytes (bytes : Bytes) : Header where
  registers := Bytes.word16 bytes
  ins := Bytes.word16 (bytes.drop 2)
  outs := Bytes.word16 (bytes.drop 4)
  tryCount := Bytes.word16 (bytes.drop 6)
  debugInfoOffset := Bytes.word32 (bytes.drop 8)
  unitCount := Bytes.word32 (bytes.drop 12)

/-- The two bytes after an odd number of code units. -/
def skipPadding (unitCount : Nat) (cursor : Cursor) : Except ReadError Cursor :=
  if unitCount % 2 = 0 then
    .ok cursor
  else do
    let (_, cursor) ← cursor.take 2 "padding"
    return cursor

/-- The try ranges and the handler list, from the end of the code on. -/
def parseTries (header : Header) (cursor : Cursor) :
    Except ReadError (List TryItem × Bytes) := do
  let cursor ← skipPadding header.unitCount.toNat cursor
  let tryCount := header.tryCount.toNat
  let (raw, cursor) ← cursor.take (tryCount * TryItem.encodedSize) "try_items"
  let length ← HandlerList.extent cursor.rest
  return (Bytes.records TryItem.encodedSize TryItem.ofBytes tryCount raw,
    cursor.rest.take length)

/-- The code item at `offset`. -/
def parse (data : Bytes) (offset : Nat) : Except ReadError CodeItem := do
  if data.length < offset then
    throw (.offsetOutOfBounds offset data.length)
  let (raw, cursor) ← (Cursor.ofOffset data offset).take Header.encodedSize "code_item header"
  let header := Header.ofBytes raw
  let unitCount := header.unitCount.toNat
  let (raw, cursor) ← cursor.take (2 * unitCount) "insns"
  let code := Bytes.records 2 Bytes.word16 unitCount raw
  let (tries, handlers) ←
    if header.tryCount = 0 then pure ([], []) else parseTries header cursor
  return {
    registers := header.registers
    ins := header.ins
    outs := header.outs
    debugInfoOffset := header.debugInfoOffset
    code, tries, handlers }

end CodeItem

end DalvikPrepass
