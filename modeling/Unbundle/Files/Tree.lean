import Unbundle.Files.System
/-
A tree of files as a value.

Places in the tree are lists of names from the root. The tree lists what stands at each place: a file with its content, or a
directory. Paths lead to places from a working directory: every component but the last must lead through a directory, and two
dots lead one directory up. Names and paths have a greatest length, which is counted in octets.
-/
namespace Unbundle

/-- a place in a tree -/
abbrev Place := List String

/-- what a tree holds at a place -/
inductive TreeEntry where
  | file (content : Bytes)
  | directory
  deriving DecidableEq, Repr

/-- a tree of files with a working directory; the root is always a directory -/
structure Tree where
  entries : List (Place × TreeEntry)
  working : Place
  deriving DecidableEq, Repr

namespace Tree

/-- what stands at a place -/
def entry? (t : Tree) (place : Place) : Option TreeEntry :=
  if place = [] then some .directory else t.entries.lookup place

/-- the tree with an entry put at a place -/
def put (t : Tree) (place : Place) (e : TreeEntry) : Tree :=
  { t with entries := (place, e) :: t.entries.filter (·.1 ≠ place) }

/-- the octets that a name may have -/
def nameLimit : Nat := 255

/-- the octets that a path may have -/
def pathLimit : Nat := 4095

/-- the place that components lead to from a directory -/
def walk (t : Tree) (start : Place) : List String → Except FileFault Place
  | [] => .ok start
  | part :: rest =>
    if nameLimit < part.utf8ByteSize then .error .nameTooLong else
    let next := if part = ".." then start.dropLast else start ++ [part]
    match rest with
    | [] => .ok next
    | _ :: _ =>
      match t.entry? next with
      | some .directory => walk t next rest
      | some (.file _) => .error .notDirectory
      | none => .error .notFound

/-- the place that a path leads to -/
def place (t : Tree) (p : Path) : Except FileFault Place :=
  if p.holdsZero then .error .holdsZero
  else if pathLimit < p.toText.utf8ByteSize then .error .nameTooLong
  else t.walk (if p.absolute then [] else t.working) p.parts

/-- what stands at a path -/
def kind? (t : Tree) (p : Path) : Except FileError (Option FileKind) :=
  match t.place p with
  | .error .nameTooLong => .error ⟨.nameTooLong, p⟩
  | .error _ => .ok none
  | .ok place =>
    match t.entry? place with
    | some .directory => .ok (some .directory)
    | some (.file _) => .ok (some .file)
    | none => .ok none

/-- the content of the file at a path -/
def read (t : Tree) (p : Path) : Except FileError Bytes :=
  match t.place p with
  | .error fault => .error ⟨fault, p⟩
  | .ok place =>
    match t.entry? place with
    | some (.file content) => .ok content
    | some .directory => .error ⟨.isDirectory, p⟩
    | none => .error ⟨.notFound, p⟩

/-- the tree with a file at a path -/
def write (t : Tree) (p : Path) (content : Bytes) : Except FileError Tree :=
  match t.place p with
  | .error fault => .error ⟨fault, p⟩
  | .ok place =>
    match t.entry? place with
    | some .directory => .error ⟨.isDirectory, p⟩
    | some (.file _) => .ok (t.put place (.file content))
    | none =>
      match t.entry? place.dropLast with
      | some .directory => .ok (t.put place (.file content))
      | some (.file _) => .error ⟨.notDirectory, p⟩
      | none => .error ⟨.notFound, p⟩

/-- the tree with an empty file at a path, unless a file was there -/
def touch (t : Tree) (p : Path) : Except FileError Tree :=
  match t.kind? p with
  | .ok (some .file) => .ok t
  | _ => t.write p []

/-- the tree with a directory at a path where nothing stood -/
def makeDirectory (t : Tree) (p : Path) : Except FileError Tree :=
  match t.place p with
  | .error fault => .error ⟨fault, p⟩
  | .ok place =>
    match t.entry? place with
    | some _ => .error ⟨.existsAlready, p⟩
    | none =>
      match t.entry? place.dropLast with
      | some .directory => .ok (t.put place .directory)
      | some (.file _) => .error ⟨.notDirectory, p⟩
      | none => .error ⟨.notFound, p⟩

/-- the names that lead from one place to another one below it -/
def below? (start place : Place) : Option (List String) :=
  if start.isPrefixOf place then some (place.drop start.length) else none

/-- the entries below a directory, each by the names that lead to it -/
def entriesBelow (t : Tree) (p : Path) : List (List String × TreeEntry) :=
  match t.place p with
  | .error _ => []
  | .ok start =>
    if t.entry? start ≠ some .directory then []
    else t.entries.filterMap fun (place, e) => (below? start place).map (·, e)

/-- the names in a directory -/
def names (t : Tree) (p : Path) : List String :=
  (t.entriesBelow p).filterMap fun
    | ([name], _) => some name
    | _ => none

/-- the directories below a directory, each behind the one that it is in -/
def directoriesBelow (t : Tree) (p : Path) : List (List String) :=
  let found := (t.entriesBelow p).filterMap fun
    | (_, .file _) => none
    | (names, .directory) => if names = [] then none else some names
  found.mergeSort fun a b => !decide (b < a)

/-- an operation that looks at the tree -/
def look {α : Type} (view : Tree → Except FileError α) : FileAction (StateM Tree) α := ExceptT.mk fun t => (view t, t)

/-- an operation that changes the tree, or fails and leaves it alone -/
def commit (change : Tree → Except FileError Tree) : FileAction (StateM Tree) Unit := ExceptT.mk fun t =>
  match change t with
  | .ok t => (.ok (), t)
  | .error e => (.error e, t)

/-- the tree as a file system -/
def system : FileSystem (StateM Tree) where
  kind? p := look (·.kind? p)
  read p := look (·.read p)
  write p content := commit (·.write p content)
  touch p := commit (·.touch p)
  makeDirectory p := commit (·.makeDirectory p)
  names p := fun t => (t.names p, t)
  directoriesBelow p := fun t => (t.directoriesBelow p, t)

end Tree

end Unbundle
