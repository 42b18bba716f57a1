import Unbundle.Bytes
import Unbundle.Module.TypeSig
/-
The graph of a module: its type definitions with their members, its resources, and what its tokens stand for.

Definitions, fields and methods are kept in pools and named by their place in the pool, so that each has an identity of its
own. A definition lists the places of its members; a member knows the definition that declares it. A member taken out of its
definition's list stays in the pool, because code may still name it by its token.

Two kinds of chains in a module may come back to themselves: declaring types and type specifications. What depends on such a
chain has no answer, and neither has what depends on the name of an absent type; `TypeFault` is that outcome.
-/
namespace Unbundle

/-- the place of a field in its module's pool -/
abbrev FieldId := Nat

/-- the place of a method in its module's pool -/
abbrev MethodId := Nat

/-- why a type has no name -/
inductive TypeFault where
  /-- a type is nested in itself -/
  | nesting (id : TypeId)
  /-- a type specification refers to itself -/
  | typeSpec (row : Nat)
  /-- there is no type -/
  | absent
  deriving DecidableEq, Repr

/-- the wording for a type without name -/
def TypeFault.message : TypeFault → String
  | .nesting _ => "a type is nested in itself"
  | .typeSpec _ => "a type specification stands for itself"
  | .absent => "there is no type"

/-- a field -/
structure Field where
  name : String
  type : TypeSig
  flags : Nat
  owner : Option TypeId
  token : Nat
  deriving Repr

/-- a method; `code` is absent when the method has no readable body -/
structure Method where
  name : String
  returns : TypeSig
  parameters : List TypeSig
  flags : Nat
  code : Option Bytes
  owner : Option TypeId
  token : Nat
  deriving Repr

/-- a type definition -/
structure TypeDef where
  space : String
  name : String
  flags : Nat
  fields : List FieldId
  methods : List MethodId
  interfaces : List TypeSig
  base : Option TypeSig
  /-- the type that this one is nested in -/
  outer : Option TypeId
  token : Nat
  deriving Repr

/-- a field or method of some type, known by name; the return type is absent for a field -/
structure MemberRef where
  name : String
  parent : Option TypeSig
  returns : Option TypeSig
  parameters : List TypeSig
  token : Nat
  deriving Repr

/-- where the content of a resource is kept -/
inductive ResourceKind where
  | embedded
  /-- in another file of the assembly -/
  | linked
  /-- in another assembly -/
  | assemblyLinked
  deriving DecidableEq, Repr

/-- the word for a kind of resource -/
def ResourceKind.label : ResourceKind → String
  | .embedded => "embedded"
  | .linked => "linked"
  | .assemblyLinked => "assembly_linked"

/-- a named resource of a module -/
structure Resource where
  name : String
  kind : ResourceKind
  data : Bytes
  deriving DecidableEq, Repr

/-- a module -/
structure Module where
  name : String
  definitions : Array TypeDef
  fields : Array Field
  methods : Array Method
  topLevel : List TypeId
  nested : List TypeId
  resources : List Resource
  /-- what the tokens of the type reference table stand for -/
  typeReferences : Array TypeSig
  /-- what the tokens of the type specification table stand for -/
  typeSpecs : Array (Except TypeFault (Option TypeSig))
  /-- what the tokens of the member reference table stand for -/
  memberReferences : Array (Except TypeFault MemberRef)

/-- a module without content -/
def Module.empty : Module := ⟨"", #[], #[], #[], [], [], [], #[], #[], #[]⟩

namespace TypeDef

/-- an interface, not a class -/
def isInterface (t : TypeDef) : Bool := t.flags / 0x20 % 2 = 1

end TypeDef

namespace Field

def isStatic (f : Field) : Bool := f.flags / 0x10 % 2 = 1

end Field

/-- who may call a method -/
inductive Access where
  | isPrivate
  | isInternal
  | isPublic
  | other
  deriving DecidableEq, Repr

namespace Method

def isStatic (m : Method) : Bool := m.flags / 0x10 % 2 = 1

/-- the access that the lowest three flags give -/
def access (m : Method) : Access :=
  match m.flags % 8 with
  | 1 => .isPrivate
  | 3 => .isInternal
  | 6 => .isPublic
  | _ => .other

/-- callable from the whole assembly at least -/
def isExposed (m : Method) : Bool := m.access = .isPublic || m.access = .isInternal

/-- the name that constructors carry -/
def constructorName : String := ".ctor"

def isConstructor (m : Method) : Bool := m.name = constructorName

end Method

namespace Module

/-- the top-level definitions followed by the nested ones -/
def allTypes (m : Module) : List TypeId := m.topLevel ++ m.nested

/-- the fields of a definition, in order -/
def fieldsOf (m : Module) (t : TypeDef) : List Field := t.fields.filterMap (m.fields[·]?)

/-- the methods of a definition, in order -/
def methodsOf (m : Module) (t : TypeDef) : List Method := t.methods.filterMap (m.methods[·]?)

/-- the first method of a definition with the given name -/
def method? (m : Module) (t : TypeDef) (name : String) : Option Method := (m.methodsOf t).find? (·.name = name)

/-- the first constructor of a definition -/
def constructor? (m : Module) (t : TypeDef) : Option Method := m.method? t Method.constructorName

/-- the definition that a type is, if it is one of this module's -/
def definition? (m : Module) (t : TypeSig) : Option (TypeId × TypeDef) := do
  let id ← t.definition?
  let d ← m.definitions[id]?
  return (id, d)

/-- the first resource with exactly the given name -/
def resource? (m : Module) (name : String) : Option Resource := m.resources.find? (·.name = name)

/-- the module with one definition changed -/
def modifyType (m : Module) (id : TypeId) (change : TypeDef → TypeDef) : Module :=
  { m with definitions := m.definitions.modify id change }

/-- the module with a field added at the end of a definition's fields -/
def addField (m : Module) (id : TypeId) (f : Field) : Module :=
  let place := m.fields.size
  { m with fields := m.fields.push { f with owner := some id } }.modifyType id fun t =>
    { t with fields := t.fields ++ [place] }

/-- the module with a method added at the end of a definition's methods -/
def addMethod (m : Module) (id : TypeId) (x : Method) : Module :=
  let place := m.methods.size
  { m with methods := m.methods.push { x with owner := some id } }.modifyType id fun t =>
    { t with methods := t.methods ++ [place] }

end Module

end Unbundle
