import Unbundle.Module.TypeSig
/-
The six roles that the types of a bundle's runtime play, and the record of which type plays which.

A role is filled once: `Roles.fill` refuses to fill one that is taken.
-/
namespace Unbundle

/-- a part in the runtime of a bundle -/
inductive Role where
  | controller
  | manager
  | streamProviderInterface
  | xmlParser
  | entryDescriptor
  | streamProvider
  deriving DecidableEq, Repr

namespace Role

/-- all roles, in the order in which their types are listed -/
def all : List Role :=
  [.controller, .manager, .streamProviderInterface, .xmlParser, .entryDescriptor, .streamProvider]

/-- the name of a role's slot -/
def slot : Role → String
  | .controller => "controller"
  | .manager => "manager"
  | .streamProviderInterface => "stream_provider_iface"
  | .xmlParser => "xml_parser"
  | .entryDescriptor => "entry_descriptor"
  | .streamProvider => "stream_provider"

/-- the role's title in a listing -/
def title : Role → String
  | .controller => "controller"
  | .manager => "manager"
  | .streamProviderInterface => "stream provider iface"
  | .xmlParser => "xml parser"
  | .entryDescriptor => "entry"
  | .streamProvider => "stream provider"

end Role

/-- the type that plays each role, where one is known -/
structure Roles where
  controller : Option TypeId := none
  manager : Option TypeId := none
  streamProviderInterface : Option TypeId := none
  xmlParser : Option TypeId := none
  entryDescriptor : Option TypeId := none
  streamProvider : Option TypeId := none
  deriving DecidableEq, Repr

namespace Roles

/-- no role is filled -/
def empty : Roles := {}

/-- the type in a role -/
def get (r : Roles) : Role → Option TypeId
  | .controller => r.controller
  | .manager => r.manager
  | .streamProviderInterface => r.streamProviderInterface
  | .xmlParser => r.xmlParser
  | .entryDescriptor => r.entryDescriptor
  | .streamProvider => r.streamProvider

/-- the record with one role given to a type -/
def set (r : Roles) (role : Role) (id : TypeId) : Roles :=
  match role with
  | .controller => { r with controller := some id }
  | .manager => { r with manager := some id }
  | .streamProviderInterface => { r with streamProviderInterface := some id }
  | .xmlParser => { r with xmlParser := some id }
  | .entryDescriptor => { r with entryDescriptor := some id }
  | .streamProvider => { r with streamProvider := some id }

/-- the record with further roles filled, or the first of them that is taken already -/
def fill (r : Roles) (slots : List (Role × TypeId)) : Except Role Roles :=
  match slots.find? fun s => (r.get s.1).isSome with
  | some s => .error s.1
  | none => .ok (slots.foldl (fun r s => r.set s.1 s.2) r)

/-- every role is filled -/
def complete (r : Roles) : Bool := Role.all.all fun role => (r.get role).isSome

/-- the six types in the order of the roles, or none at all while one is missing -/
def types (r : Roles) : List TypeId := if r.complete then Role.all.filterMap r.get else []

theorem get_set (r : Roles) (role other : Role) (id : TypeId) :
    (r.set role id).get other = if other = role then some id else r.get other := by
  cases role <;> cases other <;> rfl

end Roles

end Unbundle
