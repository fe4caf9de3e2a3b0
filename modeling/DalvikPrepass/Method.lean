import DalvikPrepass.CodeItem.Basic

/-!
# Methods

Who a method is, in descriptors, and what of it the pre-pass looks at.
-/

namespace DalvikPrepass

/-- A type descriptor as source code writes it: `Lcom/example/Foo;` becomes
`com.example.Foo`.  Other descriptors only have their slashes replaced. -/
def dottedDescriptor (descriptor : String) : String :=
  let whole := descriptor.toList
  let inner := match whole with
    | 'L' :: rest => if rest.getLast? = some ';' then rest.dropLast else whole
    | _ => whole
  String.ofList (inner.map fun char => if char = '/' then '.' else char)

structure MethodId where
  /-- Descriptor of the class that declares the method. -/
  classDescriptor : String
  name : String
  /-- Descriptor of the parameters and the result. -/
  proto : String
  deriving DecidableEq, Repr

def MethodId.shown (method : MethodId) : String :=
  method.classDescriptor ++ "." ++ method.name ++ " " ++ method.proto

/-- The parts of a method that the pre-pass checks. -/
structure MethodCode where
  code : List CodeUnit
  tries : List TryItem
  /-- The encoded handler list. -/
  handlers : Bytes
  /-- Who is named in reports, if anyone. -/
  method : Option MethodId
  deriving DecidableEq, Repr

def MethodCode.ofCodeItem (item : CodeItem) (method : Option MethodId) : MethodCode :=
  ⟨item.code, item.tries, item.handlers, method⟩

end DalvikPrepass
