import Unbundle.Files.System
/-
Patterns for file names, and the files of a directory that match one of several patterns.

In a pattern a star stands for any characters, a question mark for one character, and brackets for one character of a set, or
not of the set after an exclamation mark. Patterns have components as paths do; a component of two stars stands for any number
of directories, and two stars may stand nowhere else. A pattern may match at any depth below the directory. What ends in a slash
is a pattern for directories and matches no file.
-/
namespace Unbundle.Pattern

/-- why a text is no pattern -/
inductive PatternError where
  | absolute
  | starsInside
  deriving DecidableEq, Repr

/-- the wording of a cause -/
def PatternError.message : PatternError → String
  | .absolute => "Non-relative patterns are unsupported"
  | .starsInside => "Invalid pattern: '**' can only be an entire path component"

/-- why a search for files fails -/
inductive SearchError where
  | pattern (cause : PatternError)
  | file (cause : FileError)
  deriving DecidableEq, Repr

/-- whether two stars stand next to each other -/
def hasDoubleStar : List Char → Bool
  | '*' :: '*' :: _ => true
  | _ :: rest => hasDoubleStar rest
  | [] => false

/-- refuse a text that is no pattern -/
def check (pattern : String) : Except PatternError Unit :=
  if (Path.ofText pattern).absolute then .error .absolute
  else if (Path.components pattern).any fun c => c ≠ "**" && hasDoubleStar c.toList then .error .starsInside
  else .ok ()

/-- a piece of a pattern -/
inductive Piece where
  | any
  | one
  | literal (c : Char)
  | set (negated : Bool) (ranges : List (Char × Char))
  deriving DecidableEq, Repr

/-- the ranges that the characters between brackets list -/
def ranges : List Char → List (Char × Char)
  | [] => []
  | a :: '-' :: b :: rest => (a, b) :: ranges rest
  | a :: rest => (a, a) :: ranges rest

/-- the set after an opening bracket and what follows it: the closing bracket is the first one that is not the first member -/
def set? (cs : List Char) : Option (Piece × List Char) :=
  let (negated, body) := match cs with
    | '!' :: rest => (true, rest)
    | rest => (false, rest)
  let (first, tail) := match body with
    | ']' :: rest => ([']'], rest)
    | rest => ([], rest)
  let inner := tail.takeWhile (· ≠ ']')
  match tail.drop inner.length with
  | _ :: rest => some (.set negated (ranges (first ++ inner)), rest)
  | [] => none

/-- the pieces of a component, taken from at most `length` characters -/
def piecesWithin : (length : Nat) → List Char → List Piece
  | 0, _ => []
  | _, [] => []
  | length + 1, c :: rest =>
    if c = '*' then .any :: piecesWithin length rest
    else if c = '?' then .one :: piecesWithin length rest
    else if c = '[' then
      match set? rest with
      | some (piece, rest) => piece :: piecesWithin length rest
      | none => .literal c :: piecesWithin length rest
    else .literal c :: piecesWithin length rest

/-- the pieces of a component -/
def pieces (component : String) : List Piece := piecesWithin component.length component.toList

/-- whether one character fits a piece -/
def Piece.fits (p : Piece) (c : Char) : Bool :=
  match p with
  | .any => false
  | .one => true
  | .literal d => c = d
  | .set negated ranges => (ranges.any fun r => r.1 ≤ c && c ≤ r.2) != negated

/-- whether some tail of the characters passes a test -/
def anyTail (test : List Char → Bool) : List Char → Bool
  | [] => test []
  | c :: rest => test (c :: rest) || anyTail test rest

/-- whether characters match pieces -/
def fits : List Piece → List Char → Bool
  | [], cs => cs = []
  | .any :: rest, cs => anyTail (fits rest) cs
  | p :: rest, cs =>
    match cs with
    | [] => false
    | c :: more => p.fits c && fits rest more

/-- whether a name matches a component of a pattern -/
def matchesName (component name : String) : Bool := fits (pieces component) name.toList

/-- whether a component has pieces other than literal characters -/
def isWild (component : String) : Bool := component.toList.any fun c => c = '*' || c = '?' || c = '['

section

variable {μ : Type → Type} [Monad μ]

/-- whether something stands at a path, and a directory if more components follow -/
def leadsOn (fs : FileSystem μ) (rest : List String) (p : Path) : FileAction μ Bool := do
  match ← fs.kind? p with
  | none => return false
  | some kind => return rest.isEmpty || kind = .directory

/-- the paths that the components of a pattern lead to from a directory -/
def select (fs : FileSystem μ) : List String → Path → FileAction μ (List Path)
  | [], p => return [p]
  | component :: rest, p => do
    let next ←
      if component = "**" then pure (p :: (← fs.directoriesBelow p).map fun names => { p with parts := p.parts ++ names })
      else do
        let names ← if isWild component then pure ((← fs.names p).filter (matchesName component)) else pure [component]
        (names.map fun name => { p with parts := p.parts ++ [name] }).filterM (leadsOn fs rest)
    return (← next.mapM fun q => select fs rest q).flatten

/-- the files that match a pattern at any depth below a directory -/
def filesOf (fs : FileSystem μ) (directory : Path) (pattern : String) : FileAction μ (List Path) := do
  if (← fs.kind? directory) ≠ some .directory then return []
  let found ← select fs ("**" :: Path.components pattern) directory
  let files ← found.filterM fun p => return (← fs.kind? p) = some .file
  return if pattern.endsWith "/" then [] else files

/-- the files that match a text below a directory, if that is a pattern -/
def search (fs : FileSystem μ) (directory : Path) (text : String) : ExceptT SearchError μ (List Path) :=
  match check text with
  | .error cause => throw (.pattern cause)
  | .ok () => ExceptT.adapt SearchError.file (filesOf fs directory text)

/-- the files to look at: a file itself, or the files below a directory that match a pattern, each once and in path order -/
def collect (fs : FileSystem μ) (input : Path) (patterns : List String) : ExceptT SearchError μ (List Path) := do
  if (← ExceptT.adapt SearchError.file (fs.kind? input)) = some .file then return [input]
  let found ← patterns.mapM (search fs input)
  return found.flatten.eraseDups.mergeSort Path.le

end

end Unbundle.Pattern
