import Unbundle.Text.Digits
import Unbundle.Text.Hidden
/-
Texts between quotation marks, as they stand in messages.

The marks are single ones, or double ones around a text that holds single ones and no double ones. Inside, a backslash and the
mark itself are escaped, and so is every character that would not show.
-/
namespace Unbundle.Text

/-- the escape of a character that does not show -/
def hiddenEscape (c : Char) : List Char :=
  let digits (width : Nat) : List Char := padLeft width (Nat.toDigits 16 c.toNat)
  if c.toNat < 0x100 then '\\' :: 'x' :: digits 2
  else if c.toNat < 0x10000 then '\\' :: 'u' :: digits 4
  else '\\' :: 'U' :: digits 8

/-- a character inside the given quotation marks -/
def quoteChar (mark c : Char) : List Char :=
  if c = mark ∨ c = '\\' then ['\\', c]
  else if c = '\n' then ['\\', 'n']
  else if c = '\r' then ['\\', 'r']
  else if c = '\t' then ['\\', 't']
  else if isHidden c then hiddenEscape c
  else [c]

/-- the quotation mark for a text -/
def markFor (cs : List Char) : Char := if cs.contains '\'' && !cs.contains '"' then '"' else '\''

/-- a text between quotation marks -/
def quoted (text : String) : String :=
  let cs := text.toList
  let mark := markFor cs
  String.ofList (mark :: (cs.flatMap (quoteChar mark) ++ [mark]))

end Unbundle.Text
