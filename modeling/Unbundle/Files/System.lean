import Unbundle.Bytes
import Unbundle.Files.Path
import Unbundle.Text.Quoted
/-
What a program asks of the files around it.

A `FileSystem` is a record of the few operations that the program needs, in whatever monad the files live: the files of the
machine, or a tree that is a value. The operations built from them are the same for both.
-/
namespace Unbundle

/-- what stands at a path -/
inductive FileKind where
  | file
  | directory
  deriving DecidableEq, Repr

/-- why an operation on a file fails -/
inductive FileFault where
  | notFound
  | existsAlready
  | isDirectory
  | notDirectory
  | denied
  | nameTooLong
  /-- a file was opened, but what is written to it does not fit; the system tells no path with this fault -/
  | noRoom
  /-- the path holds the character zero, which no path of the system can -/
  | holdsZero
  | other (code : Nat) (text : String)
  deriving DecidableEq, Repr

/-- a failed operation and the path it was about -/
structure FileError where
  fault : FileFault
  path : Path
  deriving DecidableEq, Repr

namespace FileFault

/-- the system's number for a fault; one that is found before the system is asked has none -/
def code : FileFault → Nat
  | .holdsZero => 0
  | .notFound => 2
  | .denied => 13
  | .existsAlready => 17
  | .notDirectory => 20
  | .isDirectory => 21
  | .noRoom => 28
  | .nameTooLong => 36
  | .other code _ => code

/-- the system's words for a fault -/
def text : FileFault → String
  | .notFound => "No such file or directory"
  | .denied => "Permission denied"
  | .existsAlready => "File exists"
  | .notDirectory => "Not a directory"
  | .isDirectory => "Is a directory"
  | .nameTooLong => "File name too long"
  | .noRoom => "No space left on device"
  | .holdsZero => "embedded null byte"
  | .other _ text => text

/-- the name of a fault -/
def label : FileFault → String
  | .notFound => "FileNotFoundError"
  | .denied => "PermissionError"
  | .existsAlready => "FileExistsError"
  | .notDirectory => "NotADirectoryError"
  | .isDirectory => "IsADirectoryError"
  | .nameTooLong => "OSError"
  | .noRoom => "OSError"
  | .holdsZero => "PathError"
  | .other _ _ => "OSError"

end FileFault

/-- the wording of a failed operation -/
def FileError.message (e : FileError) : String :=
  let cause := "[Errno " ++ Text.decimal e.fault.code ++ "] " ++ e.fault.text
  match e.fault with
  | .holdsZero => e.fault.text
  | .noRoom => cause
  | _ => cause ++ ": " ++ Text.quoted e.path.toText

/-- an operation on files, which may fail -/
abbrev FileAction (μ : Type → Type) (α : Type) := ExceptT FileError μ α

/-- the operations on files -/
structure FileSystem (μ : Type → Type) where
  /-- what stands at a path, if anything; it fails only where the path itself is the reason -/
  kind? : Path → FileAction μ (Option FileKind)
  /-- the content of a file -/
  read : Path → FileAction μ Bytes
  /-- put a file at a path, in the place of a file that is there -/
  write : Path → Bytes → FileAction μ Unit
  /-- put an empty file at a path, unless a file is there -/
  touch : Path → FileAction μ Unit
  /-- make one directory -/
  makeDirectory : Path → FileAction μ Unit
  /-- the names in a directory, none where there is no directory -/
  names : Path → μ (List String)
  /-- the directories below a directory at any depth, each by the names that lead to it and behind the one that it is in -/
  directoriesBelow : Path → μ (List (List String))

namespace FileSystem

variable {μ : Type → Type} [Monad μ]

/-- what becomes of a directory that could not be made: all is well if it was there before -/
def settle (fs : FileSystem μ) (p : Path) (e : FileError) : FileAction μ Unit := do
  if e.fault = .notFound then throw e
  if (← fs.kind? p) = some .directory then return ()
  throw e

/-- make a directory and the directories around it that are missing, at most `depth` of them -/
def makeDirectoriesWithin (fs : FileSystem μ) : (depth : Nat) → Path → FileAction μ Unit
  | 0, p => tryCatch (fs.makeDirectory p) (fs.settle p)
  | depth + 1, p =>
    tryCatch (fs.makeDirectory p) fun e => do
      if e.fault ≠ .notFound ∨ p.parts = [] then fs.settle p e
      else
        makeDirectoriesWithin fs depth p.parent
        tryCatch (fs.makeDirectory p) (fs.settle p)

/-- make a directory and the directories around it that are missing; a directory that is there stays -/
def makeDirectories (fs : FileSystem μ) (p : Path) : FileAction μ Unit := fs.makeDirectoriesWithin p.parts.length p

end FileSystem

end Unbundle
