import Unbundle.Xml.NameChars
/-
Scanning the small parts of markup: names, blanks, literals, references, comments and processing instructions.

A scanner takes characters off the front of a text, or fails; what it fails on is not well formed. It knows what counts as a
letter in names.
-/
namespace Unbundle.Xml

/-- a step that takes characters off a text -/
abbrev Scan := ReaderT NameRule (StateT (List Char) Option)

namespace Scan

/-- give up -/
def stop {α : Type} : Scan α := fun _ _ => none

/-- go on only if a condition holds -/
def check (condition : Bool) : Scan Unit := if condition then return else stop

/-- whether the text goes on with these characters -/
def sees (front : String) : Scan Bool := return front.toList.isPrefixOf (← get)

/-- the first character, left in place -/
def peek : Scan (Option Char) := return (← get).head?

/-- exactly these characters -/
def expect (front : String) : Scan Unit := do
  check (← sees front)
  modify (·.drop front.length)

/-- these characters, if the text goes on with them -/
def accept (front : String) : Scan Bool := do
  if ← sees front then
    modify (·.drop front.length)
    return true
  return false

/-- the longest run of characters that satisfy `p` -/
def run (p : Char → Bool) : Scan (List Char) := do
  let cs ← get
  set (cs.dropWhile p)
  return cs.takeWhile p

/-- a run of one character at least -/
def run1 (p : Char → Bool) : Scan (List Char) := do
  let cs ← run p
  check (cs ≠ [])
  return cs

/-- any number of blanks -/
def spaces : Scan Unit := do
  let _ ← run isSpace

/-- one blank at least -/
def spaces1 : Scan Unit := do
  let _ ← run1 isSpace

/-- a name without colon -/
def name : Scan String := do
  let rule ← read
  match ← peek with
  | some c =>
    check (isNameStart rule c)
    return String.ofList (← run (isNameChar rule))
  | none => stop

/-- a token of name characters and colons -/
def nameToken : Scan String := do
  let rule ← read
  return String.ofList (← run1 fun c => isNameChar rule c || c = ':')

/-- the characters up to the first place where `front` stands, which is passed over -/
def upToWithin (front : List Char) : (bound : Nat) → (seen : List Char) → Scan (List Char)
  | 0, _ => stop
  | bound + 1, seen => do
    let cs ← get
    if front.isPrefixOf cs then
      set (cs.drop front.length)
      return seen.reverse
    match cs with
    | [] => stop
    | c :: rest =>
      set rest
      upToWithin front bound (c :: seen)

/-- the characters up to the first place where `front` stands, which is passed over -/
def upTo (front : String) : Scan (List Char) := do upToWithin front.toList ((← get).length + 1) []

/-- a text between quotation marks of one kind -/
def literal : Scan (List Char) := do
  if ← accept "\"" then upTo "\""
  else
    expect "'"
    upTo "'"

/-- the rest of a comment after its opening: two hyphens only at its end -/
def comment : Scan String := do
  let content ← upTo "--"
  expect ">"
  return String.ofList content

/-- the rest of a processing instruction after its opening; its target may not be `xml` in any case -/
def instruction : Scan String := do
  let target ← name
  check (target.toList.map Char.toLower ≠ ['x', 'm', 'l'])
  if ← accept "?>" then return target
  spaces1
  return target ++ " " ++ String.ofList (← upTo "?>")

end Scan

/-- a name in one or two parts, as written -/
structure QName where
  qualifier : Option String
  localPart : String
  deriving DecidableEq, Repr

/-- the name as written -/
def QName.text (n : QName) : String :=
  match n.qualifier with
  | none => n.localPart
  | some q => q ++ ":" ++ n.localPart

/-- a name in one part, or in two parts joined by a colon -/
def Scan.qName : Scan QName := do
  let first ← name
  if ← accept ":" then return ⟨some first, ← name⟩
  return ⟨none, first⟩

/-- a name in a declaration: behind a colon any name character may stand first -/
def Scan.declaredName : Scan QName := do
  let rule ← read
  let first ← name
  if ← accept ":" then return ⟨some first, String.ofList (← run1 (isNameChar rule))⟩
  return ⟨none, first⟩

/-- what a reference stands for: a character, or the text of an entity -/
inductive Reference where
  | char (c : Char)
  | entity (name : String)
  deriving DecidableEq, Repr

/-- the number that digits in a base denote; a number beyond the code points counts as the first one beyond -/
def referenceNumber (base : Nat) (cs : List Char) : Nat :=
  cs.foldl (fun n c =>
    let d := if c ≤ '9' then c.toNat - 48 else c.toLower.toNat - 87
    min (base * n + d) 0x110000) 0

/-- the character with a number, if a document may hold it -/
def referenced? (n : Nat) : Option Char :=
  if 0x110000 ≤ n ∨ (0xD800 ≤ n ∧ n < 0xE000) then none
  else if isDocumentChar (Char.ofNat n) then some (Char.ofNat n) else none

/-- whether a character is a hexadecimal digit -/
def isHexDigit (c : Char) : Bool := c.isDigit || ('a' ≤ c && c ≤ 'f') || ('A' ≤ c && c ≤ 'F')

/-- the number in a numeric reference after its number sign -/
def Scan.referenceDigits : Scan Nat := do
  if ← accept "x" then return referenceNumber 16 (← run1 isHexDigit)
  return referenceNumber 10 (← run1 Char.isDigit)

/-- the rest of a reference after the ampersand -/
def Scan.reference : Scan Reference := do
  if ← accept "#" then
    let n ← referenceDigits
    expect ";"
    match referenced? n with
    | some c => return .char c
    | none => stop
  else
    let entity ← name
    expect ";"
    return .entity entity

/-- the character that an entity of every document stands for -/
def predefined? (entity : String) : Option Char :=
  match entity with
  | "lt" => some '<'
  | "gt" => some '>'
  | "amp" => some '&'
  | "quot" => some '"'
  | "apos" => some '\''
  | _ => none

end Unbundle.Xml
