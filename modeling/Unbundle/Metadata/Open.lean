import Unbundle.Identity.Basic
import Unbundle.Image.Headers
import Unbundle.Metadata.ResourceSet
import Unbundle.Metadata.Root
import Unbundle.Metadata.Rows
/-
Opening an image that holds a module.

`Opened.ofFile` reads the headers of an image, finds the metadata in it and reads the rows there. Of several streams with one
purpose the last one counts.
-/
namespace Unbundle

/-- an image with the metadata in it -/
structure Opened where
  image : Image
  metadata : Metadata
  /-- the address that the offsets of resources count from -/
  resources : Nat

namespace Opened

/-- the names of streams that hold tables -/
def tableNames : List String := ["#~", "#-", "#Schema"]

/-- the content of the last stream that has one of some names -/
def lastStream? (names : List String) (streams : List Metadata.Stream) : Option Bytes :=
  (streams.reverse.find? fun s => names.any fun n => s.name = Utf8.encode n).map (·.content)

/-- the rows in some streams, if one of them holds tables -/
def rows? (streams : List Metadata.Stream) : Except Metadata.Defect (Option Metadata) :=
  match lastStream? tableNames streams with
  | none => .ok none
  | some content => do
    let tables ← Metadata.Tables.parse content
    let heap (name : String) : Bytes := (lastStream? [name] streams).getD []
    return some (Metadata.ofTables ⟨heap "#Strings", heap "#Blob"⟩ tables)

/-- the content of the embedded resource at an offset: a length and as many octets -/
def resourceAt (o : Opened) (offset : Nat) : Bytes :=
  let address := o.resources + offset
  match o.image.read? address 4 with
  | none => []
  | some sizeOctets =>
    let size := Bytes.toNat sizeOctets
    if size = 0 then [] else (o.image.read? (address + 4) size).getD []

/-- whether a resource's content is looked for in the image: it is in no row of another table -/
def isInside (row : Metadata.ResourceRow) : Bool := row.source.all (·.row = 0)

/-- why the resources of an image cannot be looked at -/
def resourceDefect? (o : Opened) : Option Metadata.Defect :=
  if o.metadata.hollow.contains 0x28 then some (.noRows 0x28)
  else if o.metadata.resources.any fun row => isInside row && ResourceSet.isCut (o.resourceAt row.offset) then
    some .cutResource
  else none

/-- an image opened by its runtime header -/
def ofHeader? (image : Image) (header : Metadata.RuntimeHeader) : Except Metadata.Defect (Option Opened) := do
  match ← Metadata.streams? image header with
  | none => return none
  | some streams =>
    match ← rows? streams with
    | none => return none
    | some metadata =>
      let opened : Opened := { image, metadata, resources := header.resources }
      match opened.resourceDefect? with
      | some cause => throw cause
      | none => return some opened

/-- an image opened, if it has metadata; an image whose runtime header lies nowhere is none -/
def ofImage (image : Image) : Except FormatError Opened :=
  if image.runtimeHeader = 0 then .error .noMetadata
  else match image.read? image.runtimeHeader image.runtimeHeaderSize with
    | none => .error .notAnImage
    | some octets =>
      match Metadata.RuntimeHeader.ofBytes? octets with
      | none => .error .noMetadata
      | some header =>
        match ofHeader? image header with
        | .error cause => .error (.defect cause)
        | .ok none => .error .noMetadata
        | .ok (some opened) => .ok opened

/-- the module image in a file -/
def ofFile (file : Bytes) : Except FormatError Opened :=
  match Image.parse file with
  | none => .error .notAnImage
  | some image => ofImage image

end Opened

end Unbundle
