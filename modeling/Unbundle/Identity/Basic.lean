import Unbundle.Identity.AssemblyName
import Unbundle.Metadata.Defect
/-
What a recovered module is: its full name and its kind, which decides the extension of the file it is written to.
-/
namespace Unbundle

/-- the kind of a module, as its headers tell it -/
inductive ModuleKind where
  | console
  | windows
  | dll
  | netmodule
  deriving DecidableEq, Repr

namespace ModuleKind

/-- the word for a kind -/
def label : ModuleKind → String
  | .console => "console"
  | .windows => "windows"
  | .dll => "dll"
  | .netmodule => "netmodule"

/-- the file extension of a kind -/
def extension : ModuleKind → String
  | .console | .windows => ".exe"
  | .dll => ".dll"
  | .netmodule => ".netmodule"

/-- the kind told by the image characteristics, the subsystem and the presence of an assembly row -/
def ofHeaders (characteristics subsystem : Nat) (hasAssembly : Bool) : ModuleKind :=
  if !hasAssembly then .netmodule
  else if characteristics / 0x2000 % 2 = 1 then .dll
  else if subsystem = 3 then .console
  else .windows

end ModuleKind

/-- full name and kind of a module -/
structure Identity where
  fullName : String
  kind : ModuleKind
  deriving DecidableEq, Repr

/-- why octets are no readable module -/
inductive FormatError where
  | notAnImage
  | noMetadata
  | noIdentity
  | unreadableMetadata
  /-- octets that a reader of identities refuses for a reason of its own -/
  | rejected (reason : String)
  /-- metadata that breaks off -/
  | defect (cause : Metadata.Defect)
  deriving DecidableEq, Repr

/-- the wording of a cause -/
def FormatError.message : FormatError → String
  | .notAnImage => "not a PE image"
  | .noMetadata => "PE image has no .NET metadata"
  | .noIdentity => "module has neither an Assembly nor a Module row"
  | .unreadableMetadata => "unreadable module metadata"
  | .rejected reason => reason
  | .defect cause => cause.message

end Unbundle
