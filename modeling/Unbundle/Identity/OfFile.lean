import Unbundle.Metadata.Open
/-
The identity of the module in a file.

A module with an assembly row is known by the assembly's display name. One without is known by its own name.
-/
namespace Unbundle.Identity

/-- an assembly row marks its key as a whole public key by this flag -/
def isKeyMarked (flags : Nat) : Bool := flags % 2 = 1

/-- what identifies the assembly of a row -/
def assemblyName (row : Metadata.AssemblyRow) : AssemblyName :=
  { name := row.name, version := row.version.map fun (a, b, c, d) => (a, b, c, d), culture := some row.culture,
    token := keyToken? (isKeyMarked row.flags) row.publicKey }

/-- the identity of an opened module -/
def ofOpened (o : Opened) : Except FormatError Identity :=
  let kind := ModuleKind.ofHeaders o.image.characteristics o.image.subsystem
  match o.metadata.assemblies, o.metadata.moduleNames with
  | row :: _, _ => .ok ⟨(assemblyName row).display, kind true⟩
  | [], name :: _ => .ok ⟨name, kind false⟩
  | [], [] => .error .noIdentity

/-- the identity of the module in a file -/
def ofFile (file : Bytes) : Except FormatError Identity := Opened.ofFile file >>= ofOpened

end Unbundle.Identity
