import Unbundle.Module.Basic
/-
The two resources of a bundle: the payload blob and the manifest that lists what is in it.
-/
namespace Unbundle

/-- where the payload and the manifest stand among the resources of a module -/
structure Located where
  payload : Nat
  manifest : Nat
  deriving DecidableEq, Repr

namespace Module

/-- the place of the first resource with exactly the given name, if it is embedded -/
def embedded? (m : Module) (name : String) : Option Nat := do
  let place ← m.resources.findIdx? (·.name = name)
  let resource ← m.resources[place]?
  guard (resource.kind = .embedded)
  return place

/-- the two resources of a bundle, if both are embedded -/
def locate? (m : Module) (payloadName manifestName : String) : Option Located := do
  let payload ← m.embedded? payloadName
  let manifest ← m.embedded? manifestName
  return { payload, manifest }

/-- the content of the resource at a place -/
def content (m : Module) (place : Nat) : Bytes := ((m.resources[place]?).map (·.data)).getD []

end Module

end Unbundle
