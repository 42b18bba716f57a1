import Unbundle.Diagnostics
import Unbundle.Flate.Payload
import Unbundle.Identity.Basic
import Unbundle.Manifest.Offset
import Unbundle.Text.Case
import Unbundle.Xml.Tree
/-
Extraction: the modules that a manifest lists, taken out of the payload blob one by one.

The children of the manifest's root are visited in document order. An element child gives a module, or an event when it is no
assembly or has no usable offset; any other child gives nothing. The first failure ends the extraction. `drain` visits all
children; `pull` goes on only as far as the next module.
-/
namespace Unbundle

/-- a module recovered from a bundle -/
structure AssemblyInfo where
  fullName : String
  extension : String
  data : Bytes
  deriving DecidableEq, Repr

namespace AssemblyInfo

/-- the assembly's name without version, culture and token -/
def simpleName (i : AssemblyInfo) : String := Unbundle.simpleName i.fullName

/-- the name of the file to write the module to -/
def fileName (i : AssemblyInfo) : String := i.simpleName ++ i.extension

end AssemblyInfo

namespace Manifest

/-- how payloads are decompressed and identified -/
structure Codec where
  inflate : Bytes → (offset count : Int) → (raw : Bool) → Except Flate.PayloadError Bytes
  identify : Bytes → Except FormatError Identity

/-- why an extraction ends early -/
inductive ExtractionError where
  | document (cause : Xml.DocumentError)
  | offset (cause : Overlong)
  | payload (cause : Flate.PayloadError)
  | format (cause : FormatError)
  deriving DecidableEq, Repr

/-- what a child of the manifest's root gives -/
inductive Yield where
  | nothing
  | event (e : Event)
  | module (i : AssemblyInfo)
  deriving DecidableEq, Repr

/-- what an extraction gave before it ended, and the failure that ended it, if one did -/
structure Extraction where
  infos : List AssemblyInfo
  events : List Event
  error : Option ExtractionError
  deriving DecidableEq, Repr

/-- the local name of a manifest's root, whatever its case; no letter outside ASCII is a capital of one of these -/
def rootName : String := "manifest"

/-- the local name of an entry -/
def entryName : String := "assembly"

/-- the attribute that holds an entry's offset -/
def offsetName : String := "offset"

/-- the module at an offset of the payload blob -/
def moduleAt (codec : Codec) (data : Bytes) (offset : Int) : Except ExtractionError AssemblyInfo :=
  match codec.inflate data offset (data.length - offset) true with
  | .error cause => .error (.payload cause)
  | .ok payload =>
    match codec.identify payload with
    | .error cause => .error (.format cause)
    | .ok identity => .ok ⟨identity.fullName, identity.kind.extension, payload⟩

/-- what an element gives -/
def entry (codec : Codec) (data : Bytes) (e : Xml.Element) : Except ExtractionError Yield :=
  let name := Xml.localName e.name.expanded
  if Text.lower name ≠ entryName then .ok (.event (.unknownElement name))
  else
    match offsetOf (e.attribute? offsetName) with
    | .error cause => .error (.offset cause)
    | .ok offset =>
      if offset < 0 then .ok (.event (.missingOffset name))
      else (moduleAt codec data offset).map .module

/-- what a child of the root gives -/
def yieldOf (codec : Codec) (data : Bytes) (child : Xml.Node) : Except ExtractionError Yield :=
  match child.element? with
  | some e => entry codec data e
  | none => .ok .nothing

/-- what all children give, up to the first failure -/
def drain (codec : Codec) (data : Bytes) : List Xml.Node → Extraction
  | [] => ⟨[], [], none⟩
  | child :: rest =>
    match yieldOf codec data child with
    | .error cause => ⟨[], [], some cause⟩
    | .ok .nothing => drain codec data rest
    | .ok (.event e) =>
      let later := drain codec data rest
      { later with events := e :: later.events }
    | .ok (.module i) =>
      let later := drain codec data rest
      { later with infos := i :: later.infos }

/-- how far one pull got: to the end, to a failure, or to a module with children left over -/
inductive Reached where
  | finished
  | failed (cause : ExtractionError)
  | module (i : AssemblyInfo) (rest : List Xml.Node)

/-- the children up to the next module: the events recorded on the way and how far that got -/
def pull (codec : Codec) (data : Bytes) : List Xml.Node → List Event × Reached
  | [] => ([], .finished)
  | child :: rest =>
    match yieldOf codec data child with
    | .error cause => ([], .failed cause)
    | .ok .nothing => pull codec data rest
    | .ok (.event e) =>
      let (events, reached) := pull codec data rest
      (e :: events, reached)
    | .ok (.module i) => ([], .module i rest)

/-- the modules listed in a manifest; a root of another name is one event and lists nothing -/
def extractRoot (codec : Codec) (data : Bytes) (root : Xml.Element) : Extraction :=
  let name := Xml.localName root.name.expanded
  if Text.lower name ≠ rootName then ⟨[], [.missingManifest name], none⟩ else drain codec data root.children

/-- the modules listed in a parsed document, or the reason why it is none -/
def extract (codec : Codec) (data : Bytes) (document : Except Xml.DocumentError Xml.Element) : Extraction :=
  match document with
  | .error cause => ⟨[], [], some (.document cause)⟩
  | .ok root => extractRoot codec data root

end Manifest

end Unbundle
