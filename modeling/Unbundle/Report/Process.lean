import Unbundle.Files.Output
import Unbundle.Identity.OfFile
import Unbundle.Report.Basic
/-
Processing one file: loading it, recovering what is bundled in it, and writing the recovered modules if that is asked for.

What was recovered before a contained failure is reported and written. Each step is noted in a log.
-/
namespace Unbundle

/-- how serious a note in the log is -/
inductive LogLevel where
  | info
  | warning
  | error
  deriving DecidableEq, Repr

/-- the word for a level -/
def LogLevel.label : LogLevel → String
  | .info => "INFO"
  | .warning => "WARNING"
  | .error => "ERROR"

/-- a note in the log -/
structure LogNote where
  level : LogLevel
  message : String
  deriving DecidableEq, Repr

namespace LogNote

/-- a note with structured data below it -/
def withData (level : LogLevel) (message : String) (data : Json.Value) : LogNote :=
  ⟨level, message ++ "\n" ++ data.toText⟩

/-- the note on an event -/
def ofEvent (e : Event) : LogNote := ⟨.warning, e.message⟩

/-- the note on a failure -/
def ofFailure (message : String) (f : Failure) : LogNote :=
  withData .error message (.object [("error", .text f.text)])

end LogNote

namespace Processing

/-- where the modules of a file go unless a directory is given -/
def defaultDirectory (file : Path) (s : Settings) : Path :=
  match s.outputDirectory with
  | some directory => directory.child file.stem
  | none => file.parent.child (file.stem ++ "_bundle")

/-- how payloads of real files are decompressed and identified -/
def codec : Manifest.Codec := ⟨Flate.inflate, Identity.ofFile⟩

/-- what a report says of a runtime type -/
def typeNote (m : Module) (id : TypeId) : Except TypeFault TypeNote := do
  let token := ((m.definitions[id]?).map TypeDef.token).getD 0
  return ⟨token, ← m.definitionName id⟩

/-- the report on a recovery that nothing was written of -/
def describe (file : Path) (m : Module) (r : Recovery) (failure : Option Failure) : Except TypeFault FileReport := do
  return {
    file, detected := r.detected, canRemoveTypes := r.canRemoveTypes, types := ← r.bundleTypes.mapM (typeNote m)
    modules := r.infos.map AssemblyInfo.note, warnings := r.diagnostics.events, failure }

/-- what was found in a file: the report on it, the modules to write, and the notes made on the way -/
structure Finding where
  report : FileReport
  infos : List AssemblyInfo
  log : List LogNote

/-- the notes on a failed step -/
def failureNotes (file : Path) (f : Option Failure) : List LogNote :=
  match f with
  | some f => [.ofFailure ("Processing " ++ file.toText ++ " failed") f]
  | none => []

/-- what a loaded module holds, or the failure that ends the run -/
def examineModule (file : Path) (s : Settings) (m : Module) : List LogNote × Except Failure Finding :=
  let (r, e) := Recovery.start.run codec s.resources m
  let notes := r.diagnostics.events.map LogNote.ofEvent
  let failure := e.map Failure.recovery
  match failure.filter (!·.isContained) with
  | some f => (notes, .error f)
  | none =>
    match describe file m r failure with
    | .error cause => (notes ++ failureNotes file failure, .error (.load (.fault cause)))
    | .ok report => ([], .ok ⟨report, r.infos, notes ++ failureNotes file failure⟩)

/-- a finding of nothing but a failure -/
def failedFinding (file : Path) (f : Failure) : Finding := ⟨{ file, failure := some f }, [], failureNotes file (some f)⟩

/-- what the content of a file holds, or the failure that ends the run -/
def examine (file : Path) (s : Settings) (content : Except FileError Bytes) : List LogNote × Except Failure Finding :=
  let settle (f : Failure) : Except Failure Finding := if f.isContained then .ok (failedFinding file f) else .error f
  match content with
  | .error cause => ([], settle (.file cause))
  | .ok bytes =>
    match Module.load file.name bytes with
    | .ok m => examineModule file s m
    | .error cause => ([], settle (.load cause))

section

variable {μ : Type → Type} [Monad μ]

/-- what is left of a finding after its modules were written, or after that failed -/
def Finding.after (f : Finding) : Except FileError (List Path) → Except Failure Finding
  | .ok written => .ok { f with report := { f.report with written } }
  | .error cause =>
    let failure := Failure.file cause
    let note := LogNote.ofFailure ("Writing modules of " ++ f.report.file.toText ++ " failed") failure
    if failure.isContained then .ok { f with report := { f.report with failure := some failure }, log := f.log ++ [note] }
    else .error failure

/-- write what was found, if anything was, and add the outcome to the finding -/
def writeFinding (fs : FileSystem μ) (s : Settings) (output : Option Path) (f : Finding) : μ (Except Failure Finding) := do
  if f.infos = [] then return .ok f
  return f.after (← (Output.writeModules fs f.infos (output.getD (defaultDirectory f.report.file s)) s.overwrite).run)

/-- process one file: the notes made on the way, and the report on the file or the failure that ends the run -/
def processFile (fs : FileSystem μ) (s : Settings) (output : Option Path) (write : Bool) (file : Path) :
    μ (List LogNote × Except Failure FileReport) := do
  match examine file s (← (fs.read file).run) with
  | (notes, .error f) => return (notes, .error f)
  | (_, .ok found) =>
    match ← if write then writeFinding fs s output found else pure (.ok found) with
    | .error f => return (found.log, .error f)
    | .ok done =>
      return (done.log ++ [.withData .info ("Processed " ++ file.toText) done.report.toJson], .ok done.report)

end

end Processing

end Unbundle
