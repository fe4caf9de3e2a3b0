import DalvikPrepass.CodeItem.Builder
import DalvikPrepass.Method

/-!
# Method descriptions

A method can be described by hand: its names, its code and its try ranges, each
with the handlers that cover it.  A description gives a method body, unless one of
its try ranges has no handler.
-/

namespace DalvikPrepass

structure TypedHandlerDescription where
  typeIndex : UInt32
  address : UInt32
  deriving DecidableEq, Repr

structure TryDescription where
  start : UInt32
  count : UInt32
  typed : List TypedHandlerDescription
  /-- Address of the catch-all. -/
  catchAll : Option UInt32
  deriving DecidableEq, Repr

structure MethodDescription where
  classDescriptor : String
  name : String
  proto : String
  registers : UInt16
  code : List CodeUnit
  tries : List TryDescription
  deriving DecidableEq, Repr

namespace MethodDescription

def methodId (description : MethodDescription) : MethodId :=
  ⟨description.classDescriptor, description.name, description.proto⟩

end MethodDescription

/-- The typed handlers in order, and then the catch-all. -/
def TryDescription.handlers (description : TryDescription) : List Handler :=
  description.typed.map (fun handler => ⟨some handler.typeIndex, handler.address⟩) ++
    description.catchAll.toList.map (fun address => ⟨none, address⟩)

namespace MethodDescription

/-- The try range at this index has no handler to go to. -/
structure UnhandledTry where
  index : Nat
  deriving DecidableEq, Repr

def UnhandledTry.message (error : UnhandledTry) : String :=
  "try #" ++ toString error.index ++ " has no handlers"

/-- Adds try ranges, the first of which has the given index. -/
def addTries (builder : CodeItemBuilder) : (index : Nat) → List TryDescription →
    Except UnhandledTry CodeItemBuilder
  | _, [] => .ok builder
  | index, description :: rest =>
      if description.handlers.isEmpty then .error ⟨index⟩
      else
        let (group, builder) := builder.addGroup description.handlers
        addTries (builder.addTry description.start description.count group) (index + 1) rest

/-- The method body that is described.  Try ranges with the same handlers share
a group. -/
def codeItem (description : MethodDescription) : Except UnhandledTry CodeItem := do
  let builder := CodeItemBuilder.empty
    |>.setRegisters description.registers 0 0
    |>.appendCode description.code
  let builder ← addTries builder 0 description.tries
  return builder.build

end MethodDescription

end DalvikPrepass
