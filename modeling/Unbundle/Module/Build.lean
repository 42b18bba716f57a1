import Unbundle.Code.Body
import Unbundle.Metadata.Open
import Unbundle.Module.Resolution
import Unbundle.Module.Tokens
/-
Building the graph of a module from its rows.

Each row of the type table becomes a definition. A member belongs to the definition in whose run its row stands; a row in the
runs of two definitions becomes a member of each. A member whose signature cannot be read gets an invalid type, and a method
whose body cannot be read gets none. A definition nested by several rows is nested where the last of them says.
-/
namespace Unbundle.Module

open Metadata Signature

/-- what rows only point to: method bodies by address and embedded resources by offset -/
structure Contents where
  body : Nat → Option Bytes
  resource : Nat → Bytes

/-- the type of a member whose signature cannot be read -/
def invalidType : TypeSig := .named "" "<invalid>"

/-- the field of a row -/
def buildField (rows : Metadata) (number : Nat) (row : FieldRow) : Resolving Field := do
  let (result, answer) ← readWith rows (specification rows) Reader.field row.signature
  let type := match result with
    | .ok form => form.resolve answer
    | .error _ => invalidType
  return { name := row.name, type, flags := row.flags, owner := none, token := Table.token Table.field number }

/-- the return type and the parameters of a method signature, if it can be read -/
def buildSignature (rows : Metadata) (signature : Bytes) : Resolving (Option (TypeSig × List TypeSig)) := do
  let (result, answer) ← readWith rows (specification rows) Reader.method signature
  match result with
  | .ok form => return some (form.returns.resolve answer, form.parameters.map (·.resolve answer))
  | .error _ => return none

/-- the method of a row -/
def buildMethod (rows : Metadata) (contents : Contents) (number : Nat) (row : MethodRow) : Resolving Method := do
  let (returns, parameters) := (← buildSignature rows row.signature).getD (invalidType, [])
  return {
    name := row.name, returns, parameters, flags := row.flags
    code := if row.address = 0 then none else contents.body row.address
    owner := none, token := Table.token Table.method number }

/-- a definition without members -/
def buildDefinition (number : Nat) (row : TypeDefRow) : TypeDef :=
  { space := row.space, name := row.name, flags := row.flags, fields := [], methods := [], interfaces := [], base := none,
    outer := none, token := Table.token Table.typeDef number }

/-- the module with the members of one definition added -/
def addMembers (rows : Metadata) (contents : Contents) (m : Module) (id : TypeId) (row : TypeDefRow) : Resolving Module := do
  let m ← row.fields.foldlM (fun m number => do
    match rowAt? rows.fields number with
    | some f => return m.addField id (← buildField rows number f)
    | none => return m) m
  row.methods.foldlM (fun m number => do
    match rowAt? rows.methods number with
    | some x => return m.addMethod id (← buildMethod rows contents number x)
    | none => return m) m

/-- the module with one interface added, if the row names a definition and a type -/
def addInterface (rows : Metadata) (m : Module) (row : InterfaceRow) : Resolving Module := do
  match rowAt? rows.typeDefs row.type with
  | none => return m
  | some _ =>
    match ← referenced rows row.interface with
    | some face => return m.modifyType (row.type - 1) fun t => { t with interfaces := t.interfaces ++ [face] }
    | none => return m

/-- the module with one definition nested in another, if the row names two definitions -/
def addNesting (rows : Metadata) (m : Module) (row : NestingRow) : Module :=
  match rowAt? rows.typeDefs row.inner, rowAt? rows.typeDefs row.outer with
  | some _, some _ => m.modifyType (row.inner - 1) fun t => { t with outer := some (row.outer - 1) }
  | _, _ => m

/-- the module with the base type of one definition set -/
def setBase (rows : Metadata) (m : Module) (id : TypeId) (row : TypeDefRow) : Resolving Module := do
  let base ← referenced rows row.base
  return m.modifyType id fun t => { t with base }

/-- the resource of a row -/
def buildResource (contents : Contents) (row : ResourceRow) : Resource :=
  if row.implementation = 0 then ⟨row.name, .embedded, contents.resource row.offset⟩
  else ⟨row.name, if row.implementation % 4 = 0 then .linked else .assemblyLinked, []⟩

/-- the member that a reference row names; only a method's signature is read -/
def buildMemberRef (rows : Metadata) (number : Nat) (row : MemberRefRow) : Resolving MemberRef := do
  let parent ← referenced rows row.parent
  let bare : MemberRef := { name := row.name, parent, returns := none, parameters := [],
                            token := Table.token Table.memberRef number }
  match row.signature with
  | [] => return bare
  | first :: _ =>
    if first.toNat % 16 = 6 then return bare
    match ← buildSignature rows row.signature with
    | some (returns, parameters) => return { bare with returns := some returns, parameters }
    | none => return bare

/-- the outcomes of some computations, each of which starts from the same store -/
def outcomes {α : Type} (store : Store) (items : List (Resolving α)) : Array (Except TypeFault α) :=
  (items.map fun item => (item store).map (·.1)).toArray

/-- the definitions of a module with their members, interfaces, nesting and base types -/
def buildTypes (rows : Metadata) (contents : Contents) (m : Module) : Resolving Module := do
  let numbered := rows.typeDefs.zipIdx
  let m := { m with definitions := (numbered.map fun (row, id) => buildDefinition (id + 1) row).toArray }
  let m ← numbered.foldlM (fun m (row, id) => addMembers rows contents m id row) m
  let m ← rows.interfaces.foldlM (addInterface rows) m
  let m := rows.nestings.foldl (addNesting rows) m
  numbered.foldlM (fun m (row, id) => setBase rows m id row) m

/-- whether a definition is nested in another one -/
def isNested (m : Module) (id : TypeId) : Bool := ((m.definitions[id]?).bind (·.outer)).isSome

/-- the module with its definitions listed: those that are nested apart from the others -/
def listTypes (m : Module) : Module :=
  let places := List.range m.definitions.size
  { m with topLevel := places.filter (!m.isNested ·), nested := places.filter (m.isNested ·) }

/-- the module that some rows describe -/
def build (name : String) (rows : Metadata) (contents : Contents) : Except TypeFault Module := do
  let (m, store) ← buildTypes rows contents { Module.empty with name } []
  return {
    m.listTypes with
    resources := rows.resources.map (buildResource contents)
    typeReferences := (rows.typeRefs.map fun r => TypeSig.named r.space r.name).toArray
    typeSpecs := outcomes store ((List.range rows.typeSpecs.length).map fun place => specification rows (place + 1))
    memberReferences := outcomes store (rows.memberRefs.zipIdx.map fun (row, place) => buildMemberRef rows (place + 1) row) }

/-! ## From an image -/

/-- the code of the method body at an address -/
def bodyAt (i : Image) (address : Nat) : Option Bytes := do
  let octets ← i.from? address
  match Code.readBody octets 0 with
  | .ok code => return code
  | .error _ => none

/-- why a file is not loaded -/
inductive LoadError where
  | format (cause : FormatError)
  | fault (cause : TypeFault)
  deriving DecidableEq, Repr

/-- the module of an opened image -/
def ofOpened (name : String) (o : Opened) : Except LoadError Module :=
  let contents : Contents := { body := bodyAt o.image, resource := fun offset => o.resourceAt offset }
  match o.metadata.typeDefect? with
  | some cause => .error (.format (.defect cause))
  | none =>
    match build name o.metadata contents with
    | .error cause => .error (.fault cause)
    | .ok m => .ok m

/-- the module in a file -/
def load (name : String) (file : Bytes) : Except LoadError Module :=
  match Opened.ofFile file with
  | .error cause => .error (.format cause)
  | .ok opened => ofOpened name opened

end Unbundle.Module
