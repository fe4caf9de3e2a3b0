import DalvikPrepass.Description
import DalvikPrepass.External.Yaml.Node

/-!
# Descriptions as texts

A method description is written as a YAML mapping.  Only the code has to be given.
Integers are written without quotes, in decimal or with one of the marks `0x`,
`0o` and `0b`; any scalar will do for a name.
-/

namespace DalvikPrepass

/-- Why a text is not a method description. -/
inductive DescriptionError where
  | yaml (error : Yaml.Error)
  /-- Something else than a mapping stands where one is needed. -/
  | notAMapping
  | notAList (field : String)
  | notAnInteger (field : String)
  | notAName (field : String)
  | missing (field : String)
  | repeated (field : String)
  deriving DecidableEq, Repr

def DescriptionError.message : DescriptionError → String
  | yaml error => error.message
  | notAMapping => "a mapping is needed"
  | notAList field => field ++ ": a list is needed"
  | notAnInteger field => field ++ ": an integer in range is needed"
  | notAName field => field ++ ": a scalar is needed"
  | missing field => "missing field " ++ field
  | repeated field => "field " ++ field ++ " is given twice"

namespace Yaml.Node

/-- The number that an unsigned digit string writes.  Decimal digits have no
zero in front of them. -/
def unsignedValue (digits : List Char) : Option Nat :=
  match digits with
  | '0' :: 'x' :: rest => Numeral.digitsValue 16 rest
  | '0' :: 'o' :: rest => Numeral.digitsValue 8 rest
  | '0' :: 'b' :: rest => Numeral.digitsValue 2 rest
  | '0' :: _ :: _ => none
  | _ => Numeral.digitsValue 10 digits

/-- The natural number that a node writes. -/
def toNat? : Node → Option Nat
  | scalar text true => unsignedValue (Numeral.withoutPlus text.toList)
  | _ => none

/-- Whether a node says that an optional value is absent. -/
def isAbsent : Node → Bool
  | scalar text true => ["", "~", "null", "Null", "NULL"].contains text
  | _ => false

/-- The text of a scalar. -/
def text? : Node → Option String
  | scalar text _ => some text
  | _ => none

/-- The items of a sequence.  A value that is left out has none. -/
def items? : Node → Option (List Node)
  | sequence items => some items
  | scalar "" true => some []
  | _ => none

end Yaml.Node

namespace MethodDescription

open Yaml (Node)

/-- The fields of a mapping by name. -/
abbrev Fields := List (String × Node)

/-- The fields of a mapping.  Those in `known` may be given once each; other
fields are not looked at, but their names are scalars too. -/
def fields (known : List String) (node : Node) : Except DescriptionError Fields :=
  match node with
  | .mapping entries =>
      entries.foldlM (fun (fields : Fields) (key, value) =>
        match key.text? with
        | none => .error (.notAName "key")
        | some name =>
            if !known.contains name then .ok fields
            else if fields.any (fun field => field.1 == name) then .error (.repeated name)
            else .ok (fields ++ [(name, value)])) []
  | _ => .error .notAMapping

/-- The value of a field, read by `read`, or `fallback` if it is not given. -/
def optional {α : Type} (fields : Fields) (name : String)
    (read : String → Node → Except DescriptionError α) (fallback : α) :
    Except DescriptionError α :=
  match fields.lookup name with
  | some node => read name node
  | none => .ok fallback

/-- The value of a field that has to be given. -/
def required {α : Type} (fields : Fields) (name : String)
    (read : String → Node → Except DescriptionError α) : Except DescriptionError α :=
  match fields.lookup name with
  | some node => read name node
  | none => .error (.missing name)

/-- A natural number below `bound`. -/
def boundedNat (bound : Nat) (name : String) (node : Node) : Except DescriptionError Nat :=
  match node.toNat? with
  | some value => if value < bound then .ok value else .error (.notAnInteger name)
  | none => .error (.notAnInteger name)

def word16 (name : String) (node : Node) : Except DescriptionError UInt16 := do
  return UInt16.ofNat (← boundedNat 0x10000 name node)

def word32 (name : String) (node : Node) : Except DescriptionError UInt32 := do
  return UInt32.ofNat (← boundedNat 0x100000000 name node)

def optionalWord32 (name : String) (node : Node) : Except DescriptionError (Option UInt32) := do
  if node.isAbsent then
    return none
  else
    return some (← word32 name node)

def text (name : String) (node : Node) : Except DescriptionError String :=
  match node.text? with
  | some text => .ok text
  | none => .error (.notAName name)

/-- A list whose items are read by `read`. -/
def list {α : Type} (read : Node → Except DescriptionError α) (name : String) (node : Node) :
    Except DescriptionError (List α) :=
  match node.items? with
  | some items => items.mapM read
  | none => .error (.notAList name)

def typedHandlerOfNode (node : Node) : Except DescriptionError TypedHandlerDescription := do
  let fields ← fields ["type_idx", "addr"] node
  return {
    typeIndex := ← required fields "type_idx" word32
    address := ← required fields "addr" word32 }

def tryOfNode (node : Node) : Except DescriptionError TryDescription := do
  let fields ← fields ["start", "count", "handlers", "catch_all"] node
  return {
    start := ← required fields "start" word32
    count := ← required fields "count" word32
    typed := ← optional fields "handlers" (list typedHandlerOfNode) []
    catchAll := ← optional fields "catch_all" optionalWord32 none }

def ofNode (node : Node) : Except DescriptionError MethodDescription := do
  let fields ← fields ["class", "name", "proto", "registers", "insns", "tries"] node
  return {
    classDescriptor := ← optional fields "class" text "LUnknown;"
    name := ← optional fields "name" text "unknown"
    proto := ← optional fields "proto" text "()V"
    registers := ← optional fields "registers" word16 0
    code := ← required fields "insns" (list (word16 "insns"))
    tries := ← optional fields "tries" (list tryOfNode) [] }

/-- The description that a text holds. -/
def ofString (text : String) : Except DescriptionError MethodDescription :=
  match Node.ofString text with
  | .error error => .error (.yaml error)
  | .ok node => ofNode node

end MethodDescription

end DalvikPrepass
