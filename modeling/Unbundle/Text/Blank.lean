/-
Blank characters and trimming.

`isBlank` holds of the characters that separate words in running text: the Unicode spaces, the line and paragraph
separators, and the control characters used for layout and separation. `isLayout` is its ASCII part without the four
information separators, the blanks that may surround a number.
-/
namespace Unbundle.Text

/-- space, tab, line feed, vertical tab, form feed, carriage return -/
def isLayout (c : Char) : Bool := c = ' ' || (9 ≤ c.toNat && c.toNat ≤ 13)

/-- a character that trimming removes -/
def isBlank (c : Char) : Bool :=
  let n := c.toNat
  isLayout c || (0x1C ≤ n && n ≤ 0x1F) || n = 0x85 || n = 0xA0 || n = 0x1680 || (0x2000 ≤ n && n ≤ 0x200A)
    || n = 0x2028 || n = 0x2029 || n = 0x202F || n = 0x205F || n = 0x3000

/-- a list without its longest ends that satisfy `p` -/
def trimEnds {α : Type} (p : α → Bool) (xs : List α) : List α :=
  ((xs.dropWhile p).reverse.dropWhile p).reverse

/-- a text without the blanks at its two ends -/
def trim (s : String) : String := String.ofList (trimEnds isBlank s.toList)

end Unbundle.Text
