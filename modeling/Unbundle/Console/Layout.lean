import Unbundle.Text.Blank
import Unbundle.Text.Width
/-
How shown characters are laid out in lines.

A tab moves to the next cell whose number is a multiple of eight. A cell of a table is as wide as the widest line in its column,
as measured with tabs taking no room; a line that turns out longer breaks between words. A line that is still too long is cut
off and ends in an ellipsis.
-/
namespace Unbundle.Layout

open Text (isBlank width charWidth)

/-- the lines of a text, at the characters that satisfy `ends` -/
def splitLines (ends : Char → Bool) : List Char → List (List Char)
  | [] => [[]]
  | c :: rest =>
    if ends c then [] :: splitLines ends rest
    else match splitLines ends rest with
      | [] => [[c]]
      | first :: others => (c :: first) :: others

/-- the lines of a text as they are shown -/
def lines (cs : List Char) : List (List Char) := splitLines (· = '\n') cs

/-- a line with spaces in the place of tabs, where `taken` cells stand in front -/
def expandTabs (taken : Nat) : List Char → List Char
  | [] => []
  | c :: rest =>
    if c = '\t' then List.replicate (8 - taken % 8) ' ' ++ expandTabs (taken + (8 - taken % 8)) rest
    else c :: expandTabs (taken + charWidth c) rest

/-- whether a character ends a line where the room for a text is measured -/
def separates (c : Char) : Bool :=
  let n := c.toNat
  c = '\n' || (0x1C ≤ n && n ≤ 0x1E) || n = 0x85 || n = 0x2028 || n = 0x2029

/-- the room for a text: the cells of its widest line -/
def room (cs : List Char) : Nat := ((splitLines separates cs).map width).foldl max 0

/-- the first word of a line, with the blanks around it, and the rest of the line -/
def firstWord (cs : List Char) : List Char × List Char :=
  let front := cs.takeWhile isBlank
  let word := (cs.drop front.length).takeWhile (!isBlank ·)
  let blanks := (cs.drop (front.length + word.length)).takeWhile isBlank
  let n := front.length + word.length + blanks.length
  (cs.take n, cs.drop n)

/-- the words of a line, at most `count`, each with the blanks around it; blanks without a word are left out -/
def wordsWithin : (count : Nat) → List Char → List (List Char)
  | 0, _ => []
  | count + 1, cs =>
    if cs.all isBlank then [] else (firstWord cs).1 :: wordsWithin count (firstWord cs).2

/-- the words of a line -/
def words (cs : List Char) : List (List Char) := wordsWithin cs.length cs

/-- a text without the blanks at its end -/
def trimEnd (cs : List Char) : List Char := (cs.reverse.dropWhile isBlank).reverse

/-- whether a line with `taken` cells breaks in front of a word -/
def breaksBefore (size taken : Nat) (word : List Char) : Bool :=
  size < taken + width (trimEnd word) && (taken ≠ 0 || size < width (trimEnd word))

/-- words in lines of some size, where the line `current` is not full yet -/
def fill (size : Nat) (current : List Char) : List (List Char) → List (List Char)
  | [] => [current]
  | word :: rest =>
    if current ≠ [] && breaksBefore size (width current) word then current :: fill size word rest
    else fill size (current ++ word) rest

/-- the front of a text that takes at most `size` cells; a space stands for half of a character -/
def crop (size : Nat) : List Char → List Char
  | [] => []
  | c :: rest => if charWidth c ≤ size then c :: crop (size - charWidth c) rest else List.replicate size ' '

/-- a line without the blanks at its end that are more characters than `size` -/
def trimExcess (size : Nat) (cs : List Char) : List Char :=
  cs.take (max (trimEnd cs).length (min cs.length size))

/-- a line that is cut off if it is too long -/
def cut (size : Nat) (cs : List Char) : List Char :=
  let kept := trimExcess size cs
  if width kept ≤ size then kept else crop (size - 1) kept ++ ['…']

/-- a line of a table's cell as lines of some size; a line without words does not break -/
def wrapLine (size : Nat) (line : List Char) : List (List Char) :=
  let expanded := expandTabs 0 line
  (if expanded.all isBlank then [expanded] else fill size [] (words expanded)).map (cut size)

/-- a text as the lines of a table's cell of some size -/
def wrap (size : Nat) (cs : List Char) : List (List Char) := (lines cs).flatMap (wrapLine size)

/-- a row of a table as lines that each have a part for every column; a text with fewer lines than another one ends in empty
parts -/
def rowLines (sizes : List Nat) (cells : List (List Char)) : List (List (List Char)) :=
  let columns := (sizes.zip cells).map fun (size, cs) => wrap size cs
  let height := (columns.map List.length).foldl max 0
  (List.range height).map fun n => columns.map fun column => column.getD n []

/-- a column of rows -/
def column (rows : List (List (List Char))) (n : Nat) : List (List Char) := rows.filterMap (·[n]?)

/-- the room for each column of rows -/
def columnSizes (rows : List (List (List Char))) : List Nat :=
  (List.range ((rows.map List.length).foldl max 0)).map fun n => ((column rows n).map room).foldl max 0

/-- the lines of a table -/
def tableLines (rows : List (List (List Char))) : List (List (List Char)) := rows.flatMap (rowLines (columnSizes rows))

end Unbundle.Layout
