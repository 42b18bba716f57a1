import Unbundle.Command.Arguments
import Unbundle.Console.Report
import Unbundle.Report.Scan
import Unbundle.Settings.Load
import Unbundle.Text.Utf8
/-
Running a command.

A run that is to be debugged tells where its log goes and notes each step there. The command `detect` only shows what it finds;
the command `extract` also writes the modules and, if asked, a report. A run succeeds if no file's report holds a failure and no
failure ends it early.
-/
namespace Unbundle.Command

open Markup (styled)

/-- what a run showed, noted and found, and the failure that ended it early -/
structure RunResult where
  shown : List ConsoleLine := []
  log : List LogNote := []
  reports : List FileReport := []
  failure : Option Failure := none
  deriving DecidableEq, Repr

/-- what came of a command line -/
inductive Outcome where
  | help (verb : Option Verb)
  | version
  | usage (cause : UsageError)
  | refused (failure : Failure)
  | run (request : Request) (result : RunResult)
  deriving DecidableEq, Repr

/-- a run after items are put on the console, which may fail -/
def RunResult.show (r : RunResult) (items : List ConsoleItem) : RunResult :=
  let (lines, cause) := ConsoleItem.linesOfAll items
  { r with shown := r.shown ++ lines, failure := cause.map Failure.markup }

/-- whether nothing failed in a run -/
def RunResult.succeeded (r : RunResult) : Bool := r.failure.isNone && r.reports.all (·.failure.isNone)

/-- the exit status -/
def Outcome.status : Outcome → Nat
  | .help _ => 0
  | .version => 0
  | .usage _ => 2
  | .refused _ => 1
  | .run _ r => if r.succeeded then 0 else 1

namespace Task

/-- the command that a task belongs to -/
def verb : Task → Verb
  | .detect => .detect
  | .extract _ _ _ => .extract

/-- the directory that is to be written to, if it is given -/
def output : Task → Option Path
  | .detect => none
  | .extract output _ _ => output

/-- whether modules are written -/
def writes (t : Task) : Bool := t.verb = .extract

/-- the file that a report is written to -/
def report : Task → Option Path
  | .detect => none
  | .extract _ report _ => report

/-- the settings that the task decides -/
def arguments : Task → List (String × Json.Value)
  | .extract _ _ true => [(SettingKey.overwrite.label, .bool true)]
  | _ => []

end Task

namespace Request

/-- the file for the log if none is given -/
def defaultLog : Path := Path.ofText "bundle_debug.log"

/-- the file for the log -/
def logFile (r : Request) : Path := r.debugFile.getD defaultLog

/-- the input as a path -/
def inputPath (r : Request) : Path := Path.ofText r.input

/-- whether the input is written in a way that only directories may be -/
def namesDirectory (r : Request) : Bool := r.input.endsWith "/" || r.input.endsWith "/."

/-- what the log says of the request -/
def description (r : Request) : Json.Value :=
  .object ([("command", .text r.task.verb.label), ("input_path", .text r.inputPath.toText)]
    ++ (match r.task with
      | .detect => []
      | .extract output _ _ => [("output_path", .ofText? (output.map Path.toText))]))

/-- what is shown before anything is done -/
def opening (r : Request) : List ConsoleItem :=
  if r.debug then [.line (styled "yellow" ("Debug logging enabled: " ++ r.logFile.toText))] else []

/-- what is shown when all is done -/
def closing (r : Request) : List ConsoleItem :=
  match r.task with
  | .extract _ report _ =>
    (report.toList.map fun p => .line (styled "blue" ("Report written to " ++ p.toText)))
      ++ (if r.debug then [.line ("\n" ++ styled "yellow" ("Debug log saved to: " ++ r.logFile.toText))] else [])
  | .detect => []

/-- the log of a run: only a run that is to be debugged has one -/
def log (r : Request) (notes : List LogNote) : List LogNote :=
  if r.debug then .withData .info "Debug logging started" r.description :: notes else []

end Request

section

variable {μ : Type → Type} [Monad μ]

/-- whether there is an input where a request says -/
def findsInput (fs : FileSystem μ) (r : Request) : μ Bool := do
  if r.input = "" then return false
  match ← (fs.kind? r.inputPath).run with
  | .ok (some .directory) => return true
  | .ok (some .file) => return !r.namesDirectory
  | _ => return false

/-- make the file for the log, if there is to be one -/
def openLog (fs : FileSystem μ) (r : Request) : FileAction μ Unit := if r.debug then fs.touch r.logFile else pure ()

/-- write the reports to a file, if they are asked for -/
def writeReports (fs : FileSystem μ) (file : Option Path) (reports : List FileReport) : FileAction μ Unit :=
  match file with
  | none => pure ()
  | some p => fs.write p (Utf8.encode (Json.Value.list (reports.map FileReport.toJson)).toText)

/-- run what is requested under some settings, where a run has begun -/
def runWith (fs : FileSystem μ) (s : Settings) (r : Request) (begun : RunResult) : μ RunResult := do
  match ← Scan.run fs s r.inputPath r.task.output r.task.writes with
  | (notes, .error f) => return { begun with log := r.log notes, failure := some f }
  | (notes, .ok reports) =>
    let scanned := { begun with log := r.log notes, reports }.show (Console.runItems r.inputPath reports)
    if scanned.failure.isSome then return scanned
    match ← (writeReports fs r.task.report reports).run with
    | .error e => return { scanned with failure := some (.file e) }
    | .ok () => return scanned.show r.closing

/-- run what is requested in an environment -/
def run (fs : FileSystem μ) (environment : List (String × String)) (r : Request) : μ RunResult := do
  match ← (openLog fs r).run with
  | .error e => return { failure := some (.file e) }
  | .ok () =>
    let begun := ({} : RunResult).show r.opening
    if begun.failure.isSome then return begun
    match ← Settings.load fs r.task.arguments environment with
    | .error cause => return { begun with log := r.log [], failure := some (.settings cause) }
    | .ok s => runWith fs s r begun

/-- do what a command line asks for -/
def execute (fs : FileSystem μ) (environment : List (String × String)) (words : List String) : μ Outcome := do
  match ofWords words with
  | .error cause => return .usage cause
  | .ok (.help verb) => return .help verb
  | .ok .version => return .version
  | .ok (.noFile p) => return .refused (.file ⟨.holdsZero, p⟩)
  | .ok (.run r) =>
    if ← findsInput fs r then return .run r (← run fs environment r)
    else return .usage (.noSuchInput r.input)

end

end Unbundle.Command
