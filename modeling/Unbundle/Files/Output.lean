import Unbundle.Files.System
import Unbundle.Manifest.Extraction
import Unbundle.Text.Digits
/-
Writing recovered modules to a directory.

Each module goes to a file of its own name. A name that is taken already gets the least number that makes it free, between its
stem and its suffix, unless files may be replaced. The first write that fails ends the writing.
-/
namespace Unbundle.Output

/-- a name with a number between its stem and its suffix -/
def numbered (stem suffix : String) (n : Nat) : String := stem ++ "_" ++ Text.decimal n ++ suffix

/-- the least number, counted from 1, that gives a name that is not taken: one of the first `taken.length + 1` does -/
def freeNumber (taken : List String) (stem suffix : String) : Nat :=
  ((List.range' 1 (taken.length + 1)).find? fun n => !taken.contains (numbered stem suffix n)).getD 1

section

variable {μ : Type → Type} [Monad μ]

/-- the path in a directory where a file of some name can be written; it is an error if that name is too long -/
def freePath (fs : FileSystem μ) (directory : Path) (name : String) (overwrite : Bool) : FileAction μ Path := do
  let target := directory.child name
  if overwrite then return target
  if (← fs.kind? target).isNone then return target
  let taken ← fs.names directory
  let free := directory.child (numbered target.stem target.suffix (freeNumber taken target.stem target.suffix))
  discard (fs.kind? free)
  return free

/-- write modules one after the other into a directory that is there, and tell where they went -/
def writeEach (fs : FileSystem μ) (directory : Path) (overwrite : Bool) : List AssemblyInfo → FileAction μ (List Path)
  | [] => return []
  | info :: rest => do
    let target ← freePath fs directory info.fileName overwrite
    fs.write target info.data
    return target :: (← writeEach fs directory overwrite rest)

/-- write modules into a directory, which is made if it is missing, and tell where they went -/
def writeModules (fs : FileSystem μ) (infos : List AssemblyInfo) (directory : Path) (overwrite : Bool) :
    FileAction μ (List Path) := do
  fs.makeDirectories directory
  writeEach fs directory overwrite infos

end

end Unbundle.Output
