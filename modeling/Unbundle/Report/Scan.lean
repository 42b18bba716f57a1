import Unbundle.Report.Process
/-
Scanning the files at a path.

The files are processed one after the other, each with a report of its own. A contained failure is part of the file's report; a
failure that is not ends the scan, and no report is given. So does a search for files that fails.
-/
namespace Unbundle.Scan

/-- where the modules of a file go if a directory is given: with several files each has a directory of its own in it -/
def outputOf (output : Option Path) (single : Bool) (file : Path) : Option Path :=
  output.map fun directory => if single then directory else directory.child file.stem

section

variable {μ : Type → Type} [Monad μ]

/-- process files one after the other: the notes made on the way, and the reports or the failure that ends the scan -/
def processEach (fs : FileSystem μ) (s : Settings) (output : Path → Option Path) (write : Bool) :
    List Path → μ (List LogNote × Except Failure (List FileReport))
  | [] => return ([], .ok [])
  | file :: rest => do
    match ← Processing.processFile fs s (output file) write file with
    | (notes, .error f) => return (notes, .error f)
    | (notes, .ok report) =>
      let (later, result) ← processEach fs s output write rest
      return (notes ++ later, result.map (report :: ·))

/-- scan the files at a path -/
def run (fs : FileSystem μ) (s : Settings) (input : Path) (output : Option Path) (write : Bool) :
    μ (List LogNote × Except Failure (List FileReport)) := do
  match ← (Pattern.collect fs input s.patterns).run with
  | .error cause => return ([], .error (.ofSearch cause))
  | .ok files => processEach fs s (outputOf output (files.length = 1)) write files

end

end Unbundle.Scan
