import Unbundle.Json.Value
import Unbundle.Report.Failure
/-
The report on one file: whether a bundle was found in it, which types belong to the bundle's runtime, which modules were
recovered and where they were written, what was odd, and what failed.
-/
namespace Unbundle

/-- a runtime type in a report -/
structure TypeNote where
  token : Nat
  name : String
  deriving DecidableEq, Repr

/-- a recovered module in a report -/
structure ModuleNote where
  fullName : String
  fileName : String
  size : Nat
  deriving DecidableEq, Repr

/-- the report on one file -/
structure FileReport where
  file : Path
  detected : Bool := false
  canRemoveTypes : Bool := false
  types : List TypeNote := []
  modules : List ModuleNote := []
  warnings : List Event := []
  written : List Path := []
  failure : Option Failure := none
  deriving DecidableEq, Repr

/-- what a report says of a recovered module -/
def AssemblyInfo.note (i : AssemblyInfo) : ModuleNote := ⟨i.fullName, i.fileName, i.data.length⟩

open Json (Value)

/-- a type in a written report -/
def TypeNote.toJson (t : TypeNote) : Value :=
  .object [("token", .text (Text.hexWord t.token)), ("name", .text t.name)]

/-- a module in a written report -/
def ModuleNote.toJson (m : ModuleNote) : Value :=
  .object [("full_name", .text m.fullName), ("file_name", .text m.fileName), ("size", .int m.size)]

/-- an event in a written report -/
def Event.toJson (e : Event) : Value :=
  .object [("kind", .text e.kind.label), ("message", .text e.message), ("element", .ofText? e.element),
    ("attribute", .ofText? e.attributeName)]

namespace FileReport

/-- a report as it is written: a failure is mentioned only if there is one -/
def toJson (r : FileReport) : Value :=
  .object ([("file", .text r.file.toText), ("detected", .bool r.detected), ("can_remove_types", .bool r.canRemoveTypes),
    ("bundle_types", .list (r.types.map TypeNote.toJson)), ("assemblies", .list (r.modules.map ModuleNote.toJson)),
    ("warnings", .list (r.warnings.map Event.toJson)), ("written", .list (r.written.map fun p => .text p.toText))]
    ++ (match r.failure with | some f => [("error", .text f.text)] | none => []))

end FileReport

end Unbundle
