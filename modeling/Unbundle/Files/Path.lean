/-
Paths.

A path has a start and components. Empty components and single dots are dropped when a text is read, so that no component is
empty or holds a slash; two dots stay, because it depends on the files where they lead. The last component is the path's name,
which splits into a stem and a suffix.
-/
namespace Unbundle

/-- where a path starts: at the directory that it is seen from, or at the root, which two slashes may stand for as well as one -/
inductive PathStart where
  | here
  | root
  | doubleRoot
  deriving DecidableEq, Repr

namespace PathStart

/-- the slashes for a start -/
def text : PathStart → String
  | .here => ""
  | .root => "/"
  | .doubleRoot => "//"

/-- the start that some number of slashes stands for -/
def ofSlashes : Nat → PathStart
  | 0 => .here
  | 2 => .doubleRoot
  | _ => .root

end PathStart

/-- a path -/
structure Path where
  start : PathStart
  parts : List String
  deriving DecidableEq, Repr

namespace Path

/-- whether a path starts at the root -/
def absolute (p : Path) : Bool := p.start ≠ .here

/-- the pieces of a text between slashes -/
def pieces : List Char → List (List Char)
  | [] => [[]]
  | c :: rest =>
    if c = '/' then [] :: pieces rest
    else match pieces rest with
      | [] => [[c]]
      | first :: others => (c :: first) :: others

/-- the components in a text: its pieces without the empty ones and single dots -/
def components (text : String) : List String :=
  ((pieces text.toList).filter fun p => p ≠ [] ∧ p ≠ ['.']).map String.ofList

/-- the path that a text writes -/
def ofText (text : String) : Path := ⟨.ofSlashes (text.toList.takeWhile (· = '/')).length, components text⟩

/-- the path as a text -/
def toText (p : Path) : String :=
  if p.start = .here ∧ p.parts = [] then "." else p.start.text ++ "/".intercalate p.parts

/-- whether the character zero is in a path -/
def holdsZero (p : Path) : Bool := p.parts.any fun part => part.toList.contains (Char.ofNat 0)

/-- a path seen from a directory: an absolute path is itself -/
def join (directory p : Path) : Path :=
  if p.absolute then p else { directory with parts := directory.parts ++ p.parts }

/-- a name, or what else a text writes, seen from a directory -/
def child (directory : Path) (text : String) : Path := directory.join (ofText text)

/-- the path without its last component -/
def parent (p : Path) : Path := { p with parts := p.parts.dropLast }

/-- the last component, empty if there is none -/
def name (p : Path) : String := p.parts.getLast?.getD ""

/-- a name split before its last dot, unless that is the first or the last character -/
def splitName (name : String) : String × String :=
  let tail := (name.toList.reverse.takeWhile (· ≠ '.')).reverse
  let front := name.toList.take (name.length - (tail.length + 1))
  if tail = [] ∨ front = [] then (name, "") else (String.ofList front, String.ofList ('.' :: tail))

/-- the name without its suffix -/
def stem (p : Path) : String := (splitName p.name).1

/-- the name from its last dot on, if the dot is neither the first nor the last character -/
def suffix (p : Path) : String := (splitName p.name).2

/-- the texts that decide a path's place in an order: its components, with its start in front if that is the root -/
def key (p : Path) : List String := if p.start = .here then p.parts else p.start.text :: p.parts

/-- whether one path comes before another: component by component, by the characters' code points -/
def le (p q : Path) : Bool := !decide (q.key < p.key)

end Path

end Unbundle
