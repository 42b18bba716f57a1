import Unbundle.Manifest.Extraction
import Unbundle.Matching.Located
import Unbundle.Matching.Shape
import Unbundle.Xml.Document
/-
Recovery of the modules bundled in one host module.

A recovery is a record of what was found so far. `run` looks for the two resources of a bundle and for the controller
type; only if all three are there, it matches the other runtime types and extracts the modules that the manifest lists. It
gives the new record together with the failure that ended it, if one did: the modules extracted before the failure are kept.

Running it again starts over, except that events of earlier runs stay.
-/
namespace Unbundle

/-- the names under which a bundle's two resources are stored -/
structure ResourceNames where
  payload : String
  manifest : String
  deriving DecidableEq, Repr

/-- why a recovery ends early -/
inductive RecoveryError where
  | matching (cause : Matching.MatchError)
  | extraction (cause : Manifest.ExtractionError)
  deriving DecidableEq, Repr

/-- what was found in a host module -/
structure Recovery where
  located : Option Located
  roles : Roles
  infos : List AssemblyInfo
  diagnostics : Diagnostics
  deriving DecidableEq, Repr

namespace Recovery

/-- nothing was looked for yet -/
def start : Recovery := ⟨none, .empty, [], .empty⟩

/-- both resources and the controller were found -/
def detected (r : Recovery) : Bool := r.located.isSome

/-- every runtime type was found, so that all of them can go -/
def canRemoveTypes (r : Recovery) : Bool := r.roles.complete

/-- the runtime types, none at all while one is missing -/
def bundleTypes (r : Recovery) : List TypeId := r.roles.types

/-- the record without anything found, its events kept -/
def reset (r : Recovery) : Recovery := { start with diagnostics := r.diagnostics }

/-- the record with the outcome of an extraction added -/
def add (r : Recovery) (e : Manifest.Extraction) : Recovery :=
  { r with infos := r.infos ++ e.infos, diagnostics := r.diagnostics.append e.events }

/-- what the manifest of a located bundle gives -/
def extraction (codec : Manifest.Codec) (m : Module) (place : Located) : Manifest.Extraction :=
  Manifest.extract codec (m.content place.payload) (Xml.parse (m.content place.manifest))

/-- the bundle of a module: its two resources and its controller -/
def detect? (names : ResourceNames) (m : Module) : Except TypeFault (Option (Located × TypeId)) :=
  match m.locate? names.payload names.manifest with
  | none => .ok none
  | some place => return (← Matching.controller? m).map (place, ·)

/-- look for a bundle and extract its modules -/
def run (codec : Manifest.Codec) (names : ResourceNames) (m : Module) (r : Recovery) :
    Recovery × Option RecoveryError :=
  let fresh := r.reset
  match detect? names m with
  | .error cause => (fresh, some (.matching (.fault cause)))
  | .ok none => (fresh, none)
  | .ok (some (place, controller)) =>
    let found := { fresh with located := some place }
    match Matching.runStages m { controller := some controller } with
    | .error cause => (found, some (.matching cause))
    | .ok roles =>
      let result := extraction codec m place
      (({ found with roles }).add result, result.error.map .extraction)

end Recovery

end Unbundle
