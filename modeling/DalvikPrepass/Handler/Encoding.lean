import DalvikPrepass.Handler.List

/-!
# Writing handler groups

The form in which a group is written keeps its typed handlers in order and only
the first of its catch-alls.  Two lists of handlers with the same form make the
same group.
-/

namespace DalvikPrepass

structure HandlerGroup where
  /-- Type index and address of each typed handler. -/
  typed : List (UInt32 × UInt32)
  /-- Address of the catch-all. -/
  catchAll : Option UInt32
  deriving DecidableEq, Repr

namespace HandlerGroup

def ofHandlers (handlers : List Handler) : HandlerGroup where
  typed := handlers.filterMap fun handler =>
    handler.typeIndex.map fun typeIndex => (typeIndex, handler.address)
  catchAll := (handlers.find? fun handler => handler.typeIndex.isNone).map Handler.address

/-- The handlers of the group in the order in which they are written. -/
def toHandlers (group : HandlerGroup) : List Handler :=
  group.typed.map (fun (typeIndex, address) => ⟨some typeIndex, address⟩) ++
    group.catchAll.toList.map (fun address => ⟨none, address⟩)

/-- The count in front of the handlers, negated if there is a catch-all. -/
def signedCount (group : HandlerGroup) : Int32 :=
  let count := Int32.ofNat group.typed.length
  if group.catchAll.isSome then -count else count

def encode (group : HandlerGroup) : Bytes :=
  Leb128.encodeSigned group.signedCount ++
    group.typed.flatMap (fun (typeIndex, address) =>
      Leb128.encodeUnsigned typeIndex ++ Leb128.encodeUnsigned address) ++
    group.catchAll.toList.flatMap Leb128.encodeUnsigned

end HandlerGroup

namespace HandlerList

/-- The count of the groups, which is written in front of them. -/
def encodedSize (groups : List HandlerGroup) : Bytes :=
  Leb128.encodeUnsigned (UInt32.ofNat groups.length)

def encode (groups : List HandlerGroup) : Bytes :=
  encodedSize groups ++ groups.flatMap HandlerGroup.encode

/-- Where each of the groups starts if the first starts at `offset`. -/
def offsetsFrom : (offset : Nat) → List HandlerGroup → List Nat
  | _, [] => []
  | offset, group :: groups => offset :: offsetsFrom (offset + group.encode.length) groups

/-- Where each of the groups starts in the encoded list. -/
def offsets (groups : List HandlerGroup) : List Nat :=
  offsetsFrom (encodedSize groups).length groups

end HandlerList

end DalvikPrepass
