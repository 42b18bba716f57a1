import Unbundle.Console.Item
import Unbundle.Report.Basic
/-
What the console shows of a run: a section for each file worth one, and a summary when there are several files.
-/
namespace Unbundle

namespace Console

open Markup (styled)

/-- what the runtime types are in, one after the other -/
def roleTitles : List String := ["controller", "manager", "stream provider iface", "xml parser", "entry", "stream provider"]

/-- a table, unless it has no rows -/
def tableOf (title : String) (headings : List String) (rows : List (List String)) : List ConsoleItem :=
  if rows = [] then [] else [.table title headings rows]

/-- the runtime types of a bundle, each with its role -/
def typeTable (types : List TypeNote) : List ConsoleItem :=
  tableOf "Bundle Types" ["Role", "Token", "Type"]
    ((roleTitles.zip types).map fun (title, t) => [title, Text.hexWord t.token, t.name])

/-- the modules of a bundle -/
def moduleTable (modules : List ModuleNote) : List ConsoleItem :=
  tableOf "Bundled Assemblies" ["Assembly", "File", "Size"]
    (modules.map fun m => [m.fullName, m.fileName, Text.decimal m.size])

/-- a bundle that was found -/
def bundleItems (r : FileReport) : List ConsoleItem :=
  [.line (styled "green" "Module bundle found" ++ " (removable types: " ++ (if r.canRemoveTypes then "True" else "False") ++ ")")]
    ++ typeTable r.types
    ++ r.warnings.map (fun e => .line (styled "yellow" ("Warning: " ++ e.message)))
    ++ moduleTable r.modules
    ++ r.written.map (fun p => .line (styled "green" ("Wrote " ++ p.toText)))

/-- the section on a file -/
def fileItems (r : FileReport) : List ConsoleItem :=
  [.line ("\n" ++ styled "blue" "File:" ++ " " ++ r.file.toText)]
    ++ (match r.failure with | some f => [.line (styled "red" ("Error: " ++ f.text))] | none => [])
    ++ (if r.detected then bundleItems r
        else if r.failure.isNone then [.line (styled "dim" "No module bundle found")]
        else [])

/-- the line on a file in the summary -/
def summaryRow (r : FileReport) : List String :=
  [r.file.toText, if r.detected then "yes" else "no", Text.decimal r.modules.length, if r.failure.isNone then "✓" else "✗"]

/-- the summary of several files -/
def summary (reports : List FileReport) : ConsoleItem :=
  .table "Processing Summary" ["File", "Bundle", "Assemblies", "Status"] (reports.map summaryRow)

/-- what is shown of a run over the files at a path; of several files those without a bundle are only in the summary -/
def runItems (input : Path) (reports : List FileReport) : List ConsoleItem :=
  match reports with
  | [] => [.line (styled "yellow" ("No input files found in " ++ input.toText))]
  | [r] => fileItems r
  | _ => (reports.filter fun r => r.detected || r.failure.isSome).flatMap fileItems ++ [summary reports]

end Console

end Unbundle
