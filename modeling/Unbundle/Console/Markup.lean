import Unbundle.Console.Style
import Unbundle.Text.Emoji
/-
Style marks in console text.

A mark is a word between brackets that starts with a small letter, a number sign, a slash or an at sign, as in `[red]`. A mark
with a slash in front closes the last open mark of its style, or the last open mark of all if nothing else stands in it. Marks
are not shown. A backslash in front of a mark makes it ordinary text, and two backslashes there stand for one. In the text
between marks, names between colons stand for pictures. Names from files go through the same reading, so that what looks like a
mark in them is a mark.
-/
namespace Unbundle

/-- why a text is not shown: a mark closes what is not open, or names a style that has no normal form -/
inductive MarkupError where
  | nothingOpen (place : Nat)
  | notOpen (mark : String) (place : Nat)
  | style (cause : StyleError)
  deriving DecidableEq, Repr

/-- the wording of a cause -/
def MarkupError.message : MarkupError → String
  | .nothingOpen place => "closing tag '[/]' at position " ++ Text.decimal place ++ " has nothing to close"
  | .notOpen mark place =>
    "closing tag '" ++ mark ++ "' at position " ++ Text.decimal place ++ " doesn't match any open tag"
  | .style cause => cause.message

namespace Markup

/-- a piece of a marked text: ordinary text, or the word in a mark and the place of its bracket -/
inductive Piece where
  | text (cs : List Char)
  | mark (place : Nat) (word : List Char)
  deriving DecidableEq, Repr

/-- whether a mark can start with a character -/
def opens (c : Char) : Bool := ('a' ≤ c && c ≤ 'z') || c = '#' || c = '/' || c = '@'

/-- the word of the mark whose opening bracket stands in front of the characters -/
def word? (cs : List Char) : Option (List Char) :=
  let word := cs.takeWhile fun c => c ≠ '[' && c ≠ ']'
  if (cs.drop word.length).head? = some ']' && word.head?.any opens then some word else none

/-- some backslashes -/
def slashes (n : Nat) : List Char := List.replicate n '\\'

/-- a piece of text, unless it is empty -/
def textPiece (cs : List Char) : List Piece := if cs = [] then [] else [.text cs]

/-- the pieces for a mark with `n` backslashes in front -/
def markPieces (place n : Nat) (word : List Char) : List Piece :=
  textPiece (slashes (n / 2)) ++ [if n % 2 = 1 then .text ('[' :: word ++ [']']) else .mark place word]

/-- the pieces of the characters from a place on: `skip` of them belong to a mark, and in front stand `n` backslashes behind the
characters `before`, which come in reverse -/
def piecesFrom (place : Nat) : (skip n : Nat) → (before : List Char) → List Char → List Piece
  | _, n, before, [] => textPiece (before.reverse ++ slashes n)
  | skip + 1, n, before, _ :: rest => piecesFrom (place + 1) skip n before rest
  | 0, n, before, c :: rest =>
    if c = '\\' then piecesFrom (place + 1) 0 (n + 1) before rest
    else if c = '[' then
      match word? rest with
      | some word =>
        textPiece before.reverse ++ markPieces place n word ++ piecesFrom (place + 1) (word.length + 1) 0 [] rest
      | none => piecesFrom (place + 1) 0 0 ('[' :: (slashes (n - 1) ++ before)) rest
    else piecesFrom (place + 1) 0 0 (c :: (slashes n ++ before)) rest

/-- the pieces of a text -/
def pieces (text : String) : List Piece := piecesFrom 0 0 0 [] text.toList

/-- the style that the word in a mark names: what stands in front of an equals sign -/
def styleOf (word : List Char) : Except MarkupError String :=
  (Style.normal (String.ofList (word.takeWhile (· ≠ '=')))).mapError .style

/-- the open marks after a mark; the last one opened comes first -/
def afterMark (opened : List String) (place : Nat) (word : List Char) : Except MarkupError (List String) := do
  match word with
  | '/' :: name =>
    if (name.takeWhile (· ≠ '=')).all Text.isBlank then
      match opened with
      | _ :: opened => return opened
      | [] => throw (.nothingOpen place)
    else
      let style ← styleOf name
      if opened.contains style then return opened.erase style
      throw (.notOpen (String.ofList ('[' :: word ++ [']'])) place)
  | _ => return (← styleOf word) :: opened

/-- what is shown of pieces where some marks are open -/
def shownPieces : (opened : List String) → List Piece → Except MarkupError (List Char)
  | _, [] => return []
  | opened, .text cs :: rest => return Text.withPictures cs ++ (← shownPieces opened rest)
  | opened, .mark place word :: rest => do shownPieces (← afterMark opened place word) rest

/-- bell, backspace, vertical tab, form feed and carriage return are never shown -/
def isHidden (c : Char) : Bool := [7, 8, 11, 12, 13].contains c.toNat

/-- the characters that are shown of a text -/
def shown (text : String) : Except MarkupError (List Char) := do
  return (← shownPieces [] (pieces text)).filter (!isHidden ·)

/-- a text in a style -/
def styled (style text : String) : String := "[" ++ style ++ "]" ++ text ++ "[/" ++ style ++ "]"

end Markup

end Unbundle
