import Unbundle.Files.Path
import Unbundle.Recovery
/-
What a user can set: the names of a bundle's two resources, which files of a directory are looked at, where recovered modules
go, and whether they may replace files that are there already.
-/
namespace Unbundle

/-- the settings of a run -/
structure Settings where
  payloadResource : String := ".bundle.dat"
  manifestResource : String := ".bundle.manifest"
  patterns : List String := ["*.exe", "*.dll"]
  outputDirectory : Option Path := none
  overwrite : Bool := false
  deriving DecidableEq, Repr

namespace Settings

/-- the settings of a user who set nothing -/
def default : Settings := {}

/-- the names of a bundle's resources -/
def resources (s : Settings) : ResourceNames := ⟨s.payloadResource, s.manifestResource⟩

end Settings

end Unbundle
