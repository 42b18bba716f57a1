import Unbundle.Text.Blank
import Unbundle.Text.Case
import Unbundle.Text.EmojiNames
/-
Pictures written by their names.

A picture's name stands between two colons without a blank, in letters of either case. It may end in a hyphen and the word `text`
or `emoji`, which asks for the plain or the coloured form of the picture. A name that is not known stays as it is, and its
second colon opens no other name.
-/
namespace Unbundle.Text

/-- the number that hexadecimal capitals and digits write -/
def hexNumber (digits : List Char) : Nat :=
  digits.foldl (fun n c => 16 * n + (if c.isDigit then c.toNat - 48 else c.toNat - 55)) 0

/-- the characters of a picture, from its code points -/
def pictureOf (code : String) : List Char :=
  (code.splitOn "-").map fun digits => Char.ofNat (hexNumber digits.toList)

/-- the picture of a name among words, of which those with an equals sign in front are the code points of the names behind them;
`code` are those of the names in front -/
def pictureAmong? (name code : String) : List String → Option (List Char)
  | [] => none
  | word :: rest =>
    match word.toList with
    | '=' :: digits => pictureAmong? name (String.ofList digits) rest
    | _ => if word = name then some (pictureOf code) else pictureAmong? name code rest

/-- the picture of a name -/
def picture? (name : String) : Option (List Char) :=
  emojiNames.findSome? fun line => pictureAmong? name "" (line.splitOn " ")

/-- a name without the ending that asks for a form of the picture, and the character that asks for it -/
def splitForm (name : List Char) : List Char × List Char :=
  let without (ending : String) : List Char := name.take (name.length - ending.length)
  if "-text".toList.isSuffixOf name then (without "-text", ['\uFE0E'])
  else if "-emoji".toList.isSuffixOf name then (without "-emoji", ['\uFE0F'])
  else (name, [])

/-- what is shown for a name between colons -/
def shownName (name : List Char) : List Char :=
  let (bare, form) := splitForm name
  match picture? (lower (String.ofList bare)) with
  | some picture => picture ++ form
  | none => ':' :: name ++ [':']

/-- the name behind a colon, if a colon ends it -/
def nameInColons? (cs : List Char) : Option (List Char) :=
  let name := cs.takeWhile fun c => c ≠ ':' && !isBlank c
  if (cs.drop name.length).head? = some ':' then some name else none

/-- characters with pictures in the place of their names, where the first `skip` characters belong to a name -/
def withPicturesFrom : (skip : Nat) → List Char → List Char
  | _, [] => []
  | skip + 1, _ :: rest => withPicturesFrom skip rest
  | 0, c :: rest =>
    if c = ':' then
      match nameInColons? rest with
      | some name => shownName name ++ withPicturesFrom (name.length + 1) rest
      | none => c :: withPicturesFrom 0 rest
    else c :: withPicturesFrom 0 rest

/-- characters with pictures in the place of their names -/
def withPictures (cs : List Char) : List Char := withPicturesFrom 0 cs

end Unbundle.Text
