import Unbundle.Module.Names
import Unbundle.Module.Tokens
import Unbundle.Matching.Roles
/-
Recognising the types of a bundle's runtime by their shape.

The names of these types are scrambled, so that only counts of fields, signatures of methods, implemented interfaces and the
objects that code makes can tell them. The controller is found among the top-level types. Each further stage starts from
types already found and leaves the record as it is when nothing fits:

* the manager and the interface of stream providers, from the fields of the controller;
* the parser and the descriptor of entries, from the fields of the manager;
* the stream provider, from the objects made in the controller's constructor.
-/
namespace Unbundle.Matching

/-- why matching stops without a result -/
inductive MatchError where
  /-- a stage was run although its role is taken -/
  | filled (role : Role)
  /-- a type has no name -/
  | fault (cause : TypeFault)
  deriving DecidableEq, Repr

/-- the wording of a cause -/
def MatchError.message : MatchError → String
  | .filled role => "signature slot '" ++ role.slot ++ "' is already filled"
  | .fault cause => cause.message

/-! ## Signatures -/

def voidType : String := "System.Void"
def textType : String := "System.String"
def assemblyType : String := "System.Reflection.Assembly"
def listType : String := "System.Collections.Generic.List`1"

/-- `void (Assembly)` -/
def takesAssembly (m : Module) (x : Method) : Except TypeFault Bool :=
  m.isMethod x voidType ("(" ++ assemblyType ++ ")")

/-- `void (Assembly, string)` -/
def takesAssemblyAndText (m : Module) (x : Method) : Except TypeFault Bool :=
  m.isMethod x voidType ("(" ++ assemblyType ++ "," ++ textType ++ ")")

/-- `string (string)` -/
def mapsText (m : Module) (x : Method) : Except TypeFault Bool :=
  m.isMethod x textType ("(" ++ textType ++ ")")

/-- `void ()` -/
def takesNothing (m : Module) (x : Method) : Except TypeFault Bool :=
  m.isMethod x voidType "()"

/-! ## The controller -/

/-- the static entry point of a controller: exposed, with a body, `void (Assembly)` -/
def entryPoint? (m : Module) (t : TypeDef) : Except TypeFault (Option Method) :=
  (m.methodsOf t).findM? fun x =>
    if x.isStatic && x.code.isSome && x.isExposed then takesAssembly m x else .ok false

/-- the method of a controller that makes a file name: not static, exposed, with a body, `string (string)` -/
def fileNameMethod? (m : Module) (t : TypeDef) : Except TypeFault (Option Method) :=
  (m.methodsOf t).findM? fun x =>
    if !x.isStatic && x.code.isSome && x.isExposed then mapsText m x else .ok false

/-- a controller by its shape -/
def isController (m : Module) (t : TypeDef) : Except TypeFault Bool :=
  if t.space ≠ "" || (m.fieldsOf t).length ≠ 2 then .ok false
  else match m.constructor? t with
    | none => .ok false
    | some c => do
      if c.access ≠ .isPrivate then return false
      if !(← takesAssembly m c) then return false
      if (← entryPoint? m t).isNone then return false
      return (← fileNameMethod? m t).isSome

/-- whether a definition has the shape of a controller -/
def isControllerAt (m : Module) (id : TypeId) : Except TypeFault Bool :=
  match m.definitions[id]? with
  | none => .ok false
  | some t => isController m t

/-- the first top-level type with the shape of a controller -/
def controller? (m : Module) : Except TypeFault (Option TypeId) := m.topLevel.findM? (isControllerAt m)

/-! ## The stages after it -/

/-- manager and interface, if the type of a controller's field is a manager: another type with two fields whose constructor
takes two parameters, the second an interface -/
def managerAndInterface? (m : Module) (controller : TypeId) (f : Field) : Option (TypeId × TypeId) := do
  let (id, t) ← m.definition? f.type
  guard (id ≠ controller)
  guard ((m.fieldsOf t).length = 2)
  let c ← m.constructor? t
  match c.parameters with
  | [_, second] =>
    let (face, d) ← m.definition? second
    guard d.isInterface
    return (id, face)
  | _ => none

/-- the definition that a list of one kind of thing holds, if the type is such a list -/
def listElement? (m : Module) (t : TypeSig) : Except TypeFault (Option TypeId) :=
  match t with
  | .generic element [.defined entry] => do
    return if (← m.typeName element) = listType then some entry else none
  | .generic element _ => do
    let _ ← m.typeName element
    return none
  | _ => .ok none

/-- parser and entry descriptor, if the type of a manager's field is a parser: a class with a constructor without parameters
and one field, a list of a type of the module -/
def parserAndElement? (m : Module) (f : Field) : Except TypeFault (Option (TypeId × TypeId)) :=
  match m.definition? f.type with
  | none => .ok none
  | some (id, t) =>
    if t.isInterface then .ok none
    else match m.constructor? t with
      | none => .ok none
      | some c => do
        if !(← takesNothing m c) then return none
        match m.fieldsOf t with
        | [only] => return (← listElement? m only.type).map (id, ·)
        | _ => return none

/-- the declaring type of a method, if it is a stream provider that the method makes: not the manager, made from an assembly
and a text, and with the given interface as its only one -/
def provider? (m : Module) (manager face : TypeId) (x : Method) : Except TypeFault (Option TypeId) :=
  match x.owner with
  | none => .ok none
  | some id =>
    if id = manager then .ok none
    else do
      if !(← takesAssemblyAndText m x) then return none
      match ((m.definitions[id]?).map TypeDef.interfaces).getD [] with
      | [.defined only] => return if only = face then some id else none
      | _ => return none

/-- the stream provider that an instruction makes -/
def providerMadeBy? (m : Module) (manager face : TypeId) (i : Code.Instruction) : Except TypeFault (Option TypeId) := do
  match ← m.operandEntity? i.operand with
  | some (.method id) =>
    if i.opcode ≠ Code.newObject then return none
    match m.methods[id]? with
    | some x => provider? m manager face x
    | none => return none
  | _ => return none

/-- a step from types already found to further ones -/
inductive Stage where
  | manager
  | parser
  | provider
  deriving DecidableEq, Repr

namespace Stage

/-- the stages in the order in which they depend on each other -/
def all : List Stage := [.manager, .parser, .provider]

/-- the roles that a stage fills -/
def roles : Stage → List Role
  | .manager => [.manager, .streamProviderInterface]
  | .parser => [.xmlParser, .entryDescriptor]
  | .provider => [.streamProvider]

/-- what a stage finds, given the record so far -/
def find (m : Module) (r : Roles) : Stage → Except TypeFault (Option (List TypeId))
  | .manager =>
    match r.controller with
    | none => .ok none
    | some c =>
      let fields := ((m.definitions[c]?).map m.fieldsOf).getD []
      .ok ((fields.findSome? (managerAndInterface? m c)).map fun (a, b) => [a, b])
  | .parser =>
    match r.manager with
    | none => .ok none
    | some c => do
      let fields := ((m.definitions[c]?).map m.fieldsOf).getD []
      return (← fields.findSomeM? (parserAndElement? m)).map fun (a, b) => [a, b]
  | .provider =>
    match r.controller, r.manager, r.streamProviderInterface with
    | some c, some g, some face =>
      match (m.definitions[c]?).bind m.constructor? with
      | none => .ok none
      | some x => do
        if !(← takesAssembly m x) then return none
        match x.code with
        | none => return none
        | some code =>
          return (← (Code.decode code).instructions.findSomeM? (providerMadeBy? m g face)).map ([·])
    | _, _, _ => .ok none

/-- run a stage: the record with the stage's roles filled if it finds them -/
def run (m : Module) (r : Roles) (s : Stage) : Except MatchError Roles :=
  match s.find m r with
  | .error cause => .error (.fault cause)
  | .ok none => .ok r
  | .ok (some ids) =>
    match r.fill (s.roles.zip ids) with
    | .ok r => .ok r
    | .error role => .error (.filled role)

end Stage

/-- all stages that build on a controller -/
def runStages (m : Module) (r : Roles) : Except MatchError Roles := Stage.all.foldlM (Stage.run m) r

/-- the roles that the types of a module play; none at all without a controller -/
def rolesOf (m : Module) : Except MatchError Roles :=
  match controller? m with
  | .error cause => .error (.fault cause)
  | .ok none => .ok .empty
  | .ok (some id) => runStages m { controller := some id }

end Unbundle.Matching
