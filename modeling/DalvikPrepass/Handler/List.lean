import DalvikPrepass.Handler.Group

/-!
# Handler lists

A method body keeps its handler groups in one list: an unsigned count of groups
and then the groups, back to back.  A try range names its group by the offset
from the start of the list, so ranges can share a group.
-/

namespace DalvikPrepass

/-- A group read in full. -/
structure HandlerGroupAt where
  /-- Where the group starts. -/
  offset : Nat
  handlers : List Handler
  /-- Where the next group starts. -/
  stop : Nat
  deriving DecidableEq, Repr

/-- What reading groups back to back has found. -/
structure HandlerWalk where
  /-- The groups read in full. -/
  groups : List HandlerGroupAt
  /-- The handlers of the group in which an error ended the walk. -/
  partialGroup : List Handler
  /-- The offset after the last group, or the error. -/
  ending : Except ReadError Nat
  deriving Repr

namespace HandlerWalk

/-- Every handler read, in the order of the list. -/
def handlers (walk : HandlerWalk) : List Handler :=
  walk.groups.flatMap HandlerGroupAt.handlers ++ walk.partialGroup

end HandlerWalk

namespace HandlerList

/-- Number of groups.  An absent list has none. -/
def size : Bytes → Except ReadError UInt32
  | [] => .ok 0
  | data => (Cursor.ofOffset data 0).readUnsigned.map Prod.fst

/-- Offset of the first group. -/
def firstOffset : Bytes → Except ReadError Nat
  | [] => .ok 0
  | data => (Cursor.ofOffset data 0).readUnsigned.map fun (_, cursor) => cursor.position

/-- Starts to read the group at `offset`. -/
def groupAt (data : Bytes) (offset : Nat) : Except ReadError GroupReader :=
  GroupReader.start (Cursor.ofOffset data offset)

/-- Reads `count` groups, one after the other. -/
def walkFrom : (count : Nat) → Cursor → HandlerWalk
  | 0, cursor => ⟨[], [], .ok cursor.position⟩
  | count + 1, cursor =>
      match GroupReader.start cursor with
      | .error error => ⟨[], [], .error error⟩
      | .ok reader =>
          match reader.drain with
          | (handlers, .error error) => ⟨[], handlers, .error error⟩
          | (handlers, .ok after) =>
              let walk := walkFrom count after
              { walk with
                groups := ⟨cursor.position, handlers, after.position⟩ :: walk.groups }

/-- Reads every group of the list. -/
def walk (data : Bytes) : Except ReadError HandlerWalk := do
  let count ← size data
  let offset ← firstOffset data
  return walkFrom count.toNat (Cursor.ofOffset data offset)

/-- Length in bytes of the list that the data starts with.  Here the list may
not be absent. -/
def extent (data : Bytes) : Except ReadError Nat :=
  if data.isEmpty then
    .error (.truncated "encoded_catch_handler_list" 0)
  else do
    (← walk data).ending

end HandlerList

end DalvikPrepass
