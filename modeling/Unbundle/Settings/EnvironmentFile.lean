import Unbundle.Text.Blank
/-
Environment files: one variable a line, as `NAME=value`.

A value may stand between single or double quotation marks, in which case it may go over several lines and hold escapes. An
unquoted value ends with its line or before a comment. A value may refer to variables, as `${NAME}` or `${NAME:-default}`.
Lines that are no binding are skipped. However a line ends in the file, the text that is read has a line feed there.
-/
namespace Unbundle.EnvironmentFile

open Text

/-- characters with a line feed for every carriage return and for every pair of the two -/
def lineFeeds : List Char → List Char
  | [] => []
  | '\r' :: '\n' :: rest => '\n' :: lineFeeds rest
  | c :: rest => (if c = '\r' then '\n' else c) :: lineFeeds rest

/-- a blank inside a line -/
def isInner (c : Char) : Bool := isBlank c && c ≠ '\n'

/-- the characters after the blanks of the line -/
def skipInner (cs : List Char) : List Char := cs.dropWhile isInner

/-- what is left after a line end, or at the end of the text -/
def lineEnd? (cs : List Char) : Option (List Char) :=
  match skipInner cs with
  | [] => some []
  | c :: rest => if c = '\n' then some rest else none

/-- what is left after a comment, if there is one -/
def skipComment (cs : List Char) : List Char :=
  match skipInner cs with
  | '#' :: rest => rest.dropWhile (· ≠ '\n')
  | _ => cs

/-- what is left after the word that exports a variable, if it is there -/
def skipExport (cs : List Char) : List Char :=
  let word := "export".toList
  if word.isPrefixOf cs && ((cs.drop word.length).head?.any isInner) then skipInner (cs.drop word.length) else cs

/-- the single quotation mark -/
def singleMark : Char := Char.ofNat 39

/-- the double quotation mark -/
def doubleMark : Char := Char.ofNat 34

/-- the characters up to the first mark without a backslash in front, and what follows the mark -/
def upToBareMark (mark : Char) : List Char → Option (List Char × List Char)
  | [] => none
  | c :: rest =>
    if c = mark then some ([], rest)
    else match rest with
      | d :: more =>
        if c = '\\' ∧ d = mark then (upToBareMark mark more).map fun (front, tail) => (c :: d :: front, tail)
        else (upToBareMark mark (d :: more)).map fun (front, tail) => (c :: front, tail)
      | [] => none

/-- the characters up to the last mark, and what follows the mark -/
def upToLastMark (mark : Char) (cs : List Char) : Option (List Char × List Char) :=
  if cs.contains mark then
    let tail := (cs.reverse.takeWhile (· ≠ mark)).reverse
    some (cs.take (cs.length - (tail.length + 1)), tail)
  else none

/-- the content of a quoted value, the opening mark being taken off: the closing mark has no backslash in front, unless there
is no such mark -/
def quotedContent? (mark : Char) (cs : List Char) : Option (List Char × List Char) :=
  upToBareMark mark cs <|> upToLastMark mark cs

/-- the letters behind a backslash in double quotation marks, and what they stand for -/
def escapes : List (Char × Nat) :=
  [('\\', 92), (singleMark, 39), (doubleMark, 34), ('a', 7), ('b', 8), ('f', 12), ('n', 10), ('r', 13), ('t', 9), ('v', 11)]

/-- a quoted value with the given escapes replaced -/
def unescape (known : List (Char × Nat)) : List Char → List Char
  | [] => []
  | [c] => [c]
  | c :: d :: rest =>
    if c = '\\' then
      match known.lookup d with
      | some n => Char.ofNat n :: unescape known rest
      | none => c :: unescape known (d :: rest)
    else c :: unescape known (d :: rest)

/-- an unquoted value without the comment behind it -/
def uncommented : List Char → List Char
  | [] => []
  | c :: rest =>
    if isBlank c ∧ (rest.dropWhile isBlank).head? = some '#' then [] else c :: uncommented rest

/-- the value behind an equals sign, and what follows it -/
def value? (cs : List Char) : Option (List Char × List Char) :=
  match cs with
  | [] => some ([], [])
  | c :: rest =>
    if c = singleMark then
      (quotedContent? singleMark rest).map fun (v, rest) => (unescape (escapes.take 2) v, rest)
    else if c = doubleMark then
      (quotedContent? doubleMark rest).map fun (v, rest) => (unescape escapes v, rest)
    else
      let line := cs.takeWhile (· ≠ '\n')
      some ((uncommented line).reverse.dropWhile isBlank |>.reverse, cs.drop line.length)

/-- the name of a variable, and what follows it -/
def key? (cs : List Char) : Option (List Char × List Char) :=
  match cs with
  | [] => none
  | c :: rest =>
    if c = singleMark then
      let front := rest.takeWhile (· ≠ singleMark)
      if front = [] ∨ front.length = rest.length then none else some (front, rest.drop (front.length + 1))
    else
      let front := cs.takeWhile fun c => c ≠ '=' && c ≠ '#' && !isBlank c
      if front = [] then none else some (front, cs.drop front.length)

/-- a line's name and value; either may be missing -/
structure Binding where
  key : Option String
  value : Option String
  deriving DecidableEq, Repr

/-- a line that is no binding -/
def Binding.none : Binding := ⟨Option.none, Option.none⟩

/-- the characters behind the rest of a line -/
def skipLine (cs : List Char) : List Char := (cs.dropWhile (· ≠ '\n')).drop 1

/-- the value of a binding, the name being taken off, and what follows it; otherwise the place where that failed -/
def assigned (cs : List Char) : Except (List Char) (Option String × List Char) :=
  match skipInner cs with
  | '=' :: rest =>
    match value? (skipInner rest) with
    | some (v, rest) => .ok (some (String.ofList v), rest)
    | .none => .error (skipInner rest)
  | rest => .ok (.none, rest)

/-- the binding in a line, blanks in front being taken off, and what follows the line -/
def binding (cs : List Char) : Binding × List Char :=
  let cs := skipExport cs
  let named : Option (Option String × List Char) :=
    if cs.head? = some '#' then some (.none, cs) else (key? cs).map fun (k, rest) => (some (String.ofList k), rest)
  match named with
  | .none => (.none, skipLine cs)
  | some (key, rest) =>
    match assigned rest with
    | .error rest => (.none, skipLine rest)
    | .ok (value, rest) =>
      match lineEnd? (skipComment rest) with
      | some rest => (⟨key, value⟩, rest)
      | .none => (.none, skipLine (skipComment rest))

/-- the bindings of at most `count` lines -/
def bindingsWithin : (count : Nat) → List Char → List Binding
  | 0, _ => []
  | count + 1, cs =>
    match cs.dropWhile isBlank with
    | [] => []
    | cs =>
      let (b, rest) := binding cs
      b :: bindingsWithin count rest

/-! ## References to variables -/

/-- the name and the default in a reference, the opening being taken off, and what follows it -/
def reference? (cs : List Char) : Option (List Char × List Char × List Char) :=
  let name := cs.takeWhile fun c => c ≠ '\x7d' && c ≠ ':'
  match cs.drop name.length with
  | '\x7d' :: rest => some (name, [], rest)
  | ':' :: '-' :: more =>
    let fallback := more.takeWhile (· ≠ '\x7d')
    match more.drop fallback.length with
    | _ :: rest => some (name, fallback, rest)
    | [] => none
  | _ => none

/-- the characters of a value with references replaced, taken from at most `length` characters; `known` tells the variables'
values, a known variable may have none -/
def expandWithin (known : String → Option (Option String)) : (length : Nat) → List Char → List Char
  | 0, _ => []
  | _, [] => []
  | length + 1, c :: rest =>
    match c, rest with
    | '$', '\x7b' :: more =>
      match reference? more with
      | some (name, fallback, rest) =>
        let text := match known (String.ofList name) with
          | some (some v) => v.toList
          | some .none => []
          | .none => fallback
        text ++ expandWithin known length rest
      | .none => c :: expandWithin known length rest
    | _, _ => c :: expandWithin known length rest

/-- a list of variables with one more set; a variable that is set again keeps its place -/
def setVariable (name : String) (value : Option String) : List (String × Option String) → List (String × Option String)
  | [] => [(name, value)]
  | v :: rest => if v.1 = name then (name, value) :: rest else v :: setVariable name value rest

/-- the variables that bindings set; a value may refer to variables set before it and to the environment -/
def resolve (environment : List (String × String)) : List Binding → List (String × Option String)
    → List (String × Option String)
  | [], known => known
  | b :: rest, known =>
    match b.key with
    | .none => resolve environment rest known
    | some key =>
      let value := b.value.map fun v =>
        let look (name : String) : Option (Option String) :=
          known.lookup name <|> (environment.lookup name).map some
        String.ofList (expandWithin look v.length v.toList)
      resolve environment rest (setVariable key value known)

/-- the variables that an environment file sets, some of them to no value -/
def parse (environment : List (String × String)) (text : String) : List (String × Option String) :=
  let lines := lineFeeds text.toList
  resolve environment (bindingsWithin lines.length lines) []

end Unbundle.EnvironmentFile
