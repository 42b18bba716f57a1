import Unbundle.Command.Run
/-
The program: the files of the machine, its environment, and the console.
-/
namespace Unbundle.Machine

/-! ## Files -/

/-- the fault that the system reports -/
def faultOf : IO.Error → FileFault
  | .noFileOrDirectory _ _ _ => .notFound
  | .noSuchThing _ _ _ => .notFound
  | .alreadyExists _ _ _ => .existsAlready
  | .permissionDenied _ _ _ => .denied
  | .inappropriateType _ code _ => if code = 21 then .isDirectory else .notDirectory
  | .invalidArgument _ 36 _ => .nameTooLong
  | .resourceExhausted _ 28 _ => .noRoom
  | e => .other 5 (toString e)

/-- an operation of the machine on a path -/
def attempt {α : Type} (p : Path) (operation : IO α) : FileAction IO α := ExceptT.mk do
  if p.holdsZero then return .error ⟨.holdsZero, p⟩
  match ← operation.toBaseIO with
  | .ok a => return .ok a
  | .error e => return .error ⟨faultOf e, p⟩

/-- what stands at a path -/
def kind? (p : Path) : IO (Option FileKind) := do
  let place := (← IO.currentDir) / p.toText
  if ← place.isDir then return some .directory
  if ← place.pathExists then return some .file
  return none

/-- make sure that there is a file at a path -/
def touch (p : Path) : IO Unit := do
  let _ ← IO.FS.Handle.mk p.toText .append

/-- the names in a directory -/
def names (p : Path) : IO (List String) := do
  let place := (← IO.currentDir) / p.toText
  match ← place.readDir.toBaseIO with
  | .ok found => return found.toList.map (·.fileName)
  | .error _ => return []

/-- the directories below a directory, each by the names that lead to it -/
partial def directoriesBelow (p : Path) : IO (List (List String)) := do
  let below ← (← names p).mapM fun name => do
    match ← kind? (p.child name) with
    | some .directory => return [name] :: (← directoriesBelow (p.child name)).map (name :: ·)
    | _ => return []
  return below.flatten

/-- the files of the machine -/
def files : FileSystem IO where
  kind? p := (kind? p : IO _)
  read p := attempt p do return (← IO.FS.readBinFile p.toText).toList
  write p content := attempt p (IO.FS.writeBinFile p.toText ⟨content.toArray⟩)
  touch p := attempt p (touch p)
  makeDirectory p := attempt p (IO.FS.createDir p.toText)
  names := names
  directoriesBelow := directoriesBelow

/-! ## Environment and console -/

/-- the variables that settings can come from, as far as they are set -/
def environment : IO (List (String × String)) := do
  let known := SettingKey.all.map SettingKey.variableName
  (known ++ known.map String.toUpper).filterMapM fun name => do
    return (← IO.getEnv name).map (name, ·)

/-- show a line -/
def display : ConsoleLine → IO Unit
  | .text line => IO.println line
  | .row cells => IO.println ("  " ++ " | ".intercalate cells)

/-- how the program is called -/
def usageLines : List String :=
  ["usage: unbundle detect [--debug] [--debug-file FILE] INPUT",
   "       unbundle extract [-o DIRECTORY] [--report FILE] [--overwrite] [--debug] [--debug-file FILE] INPUT"]

/-- add the notes of a run to its log file -/
def keepLog (file : Path) (notes : List LogNote) : IO Unit := do
  let handle ← IO.FS.Handle.mk file.toText .append
  for note in notes do
    handle.putStrLn (note.level.label ++ " | " ++ note.message)

/-- show what came of a command line -/
def conclude : Command.Outcome → IO Unit
  | .help _ => usageLines.forM IO.println
  | .version => IO.println "unbundle 0.1.0"
  | .usage cause => do
    usageLines.forM IO.eprintln
    IO.eprintln cause.message
  | .refused failure => IO.eprintln failure.text
  | .run request result => do
    result.shown.forM display
    if request.debug then keepLog request.logFile result.log
    match result.failure with
    | some failure => IO.eprintln failure.text
    | none => return ()

end Unbundle.Machine

/-- do what the command line asks for -/
def main (words : List String) : IO UInt32 := do
  let outcome ← Unbundle.Command.execute Unbundle.Machine.files (← Unbundle.Machine.environment) words
  Unbundle.Machine.conclude outcome
  return outcome.status.toUInt32
