import Unbundle.Text.Blank
import Unbundle.Text.Case
import Unbundle.Text.Digits
/-
Names of console styles.

A style is written as words in any order: attributes, short or long; a colour; a colour after `on` for the background; the word
`not` in front of an attribute that is turned off; and `link` in front of an address. Styles that look alike have one normal
form, in which the attributes come first. A text that is no style stands for itself, in lower case.
-/
namespace Unbundle

/-- what a style says: attributes that are on or off, the two colours, and an address -/
structure Style where
  attributes : List (String × Bool) := []
  color : Option String := none
  background : Option String := none
  address : Option String := none
  deriving DecidableEq, Repr

/-- why there is no normal form: a colour is written as three numbers and one of them is missing -/
inductive StyleError where
  | noNumber
  deriving DecidableEq, Repr

/-- the wording of a cause -/
def StyleError.message : StyleError → String
  | .noNumber => "invalid literal for int() with base 10: ''"

namespace Style

/-- the attributes in the order of the normal form -/
def attributeNames : List String :=
  ["bold", "dim", "italic", "underline", "blink", "blink2", "reverse", "conceal", "strike", "underline2", "frame", "encircle",
    "overline"]

/-- the short forms of attributes -/
def attributeLetters : List (String × String) :=
  [("d", "dim"), ("b", "bold"), ("i", "italic"), ("u", "underline"), ("r", "reverse"), ("c", "conceal"), ("s", "strike"),
    ("uu", "underline2"), ("o", "overline")]

/-- the attribute that a word stands for -/
def attribute? (word : String) : Option String :=
  if attributeNames.contains word then some word else attributeLetters.lookup word

/-- the names of colours -/
def colorNames : List String := [
  "black red green yellow blue magenta cyan white bright_black bright_red bright_green bright_yellow bright_blue",
  "bright_magenta bright_cyan bright_white grey0 gray0 navy_blue dark_blue blue3 blue1 dark_green deep_sky_blue4",
  "dodger_blue3 dodger_blue2 green4 spring_green4 turquoise4 deep_sky_blue3 dodger_blue1 green3 spring_green3",
  "dark_cyan light_sea_green deep_sky_blue2 deep_sky_blue1 spring_green2 cyan3 dark_turquoise turquoise2 green1",
  "spring_green1 medium_spring_green cyan2 cyan1 dark_red deep_pink4 purple4 purple3 blue_violet orange4 grey37",
  "gray37 medium_purple4 slate_blue3 royal_blue1 chartreuse4 dark_sea_green4 pale_turquoise4 steel_blue steel_blue3",
  "cornflower_blue chartreuse3 cadet_blue sky_blue3 steel_blue1 pale_green3 sea_green3 aquamarine3 medium_turquoise",
  "chartreuse2 sea_green2 sea_green1 aquamarine1 dark_slate_gray2 dark_magenta dark_violet purple light_pink4 plum4",
  "medium_purple3 slate_blue1 yellow4 wheat4 grey53 gray53 light_slate_grey light_slate_gray medium_purple",
  "light_slate_blue dark_olive_green3 dark_sea_green light_sky_blue3 sky_blue2 dark_sea_green3 dark_slate_gray3",
  "sky_blue1 chartreuse1 light_green pale_green1 dark_slate_gray1 red3 medium_violet_red magenta3 dark_orange3",
  "indian_red hot_pink3 medium_orchid3 medium_orchid medium_purple2 dark_goldenrod light_salmon3 rosy_brown grey63",
  "gray63 medium_purple1 gold3 dark_khaki navajo_white3 grey69 gray69 light_steel_blue3 light_steel_blue yellow3",
  "dark_sea_green2 light_cyan3 light_sky_blue1 green_yellow dark_olive_green2 dark_sea_green1 pale_turquoise1",
  "deep_pink3 magenta2 hot_pink2 orchid medium_orchid1 orange3 light_pink3 pink3 plum3 violet light_goldenrod3 tan",
  "misty_rose3 thistle3 plum2 khaki3 light_goldenrod2 light_yellow3 grey84 gray84 light_steel_blue1 yellow2",
  "dark_olive_green1 honeydew2 light_cyan1 red1 deep_pink2 deep_pink1 magenta1 orange_red1 indian_red1 hot_pink",
  "dark_orange salmon1 light_coral pale_violet_red1 orchid2 orchid1 orange1 sandy_brown light_salmon1 light_pink1",
  "pink1 plum1 gold1 navajo_white1 misty_rose1 thistle1 yellow1 light_goldenrod1 khaki1 wheat1 cornsilk1 grey100",
  "gray100 grey3 gray3 grey7 gray7 grey11 gray11 grey15 gray15 grey19 gray19 grey23 gray23 grey27 gray27 grey30",
  "gray30 grey35 gray35 grey39 gray39 grey42 gray42 grey46 gray46 grey50 gray50 grey54 gray54 grey58 gray58 grey62",
  "gray62 grey66 gray66 grey70 gray70 grey74 gray74 grey78 gray78 grey82 gray82 grey85 gray85 grey89 gray89 grey93",
  "gray93"]

/-- the text between a word with an opening bracket and a closing bracket -/
def argument? (word : String) (cs : List Char) : Option (List Char) :=
  if word.toList.isPrefixOf cs ∧ cs.getLast? = some ')' then some ((cs.drop word.length).dropLast) else none

/-- the parts of a text between commas -/
def parts (cs : List Char) : List (List Char) :=
  (String.ofList cs).splitOn "," |>.map String.toList

/-- whether a word in lower case is a colour: a name, six hexadecimal digits behind a number sign, a number in brackets, or three
numbers in brackets; no number is above 255 -/
def isColor (word : String) : Except StyleError Bool := do
  let cs := word.toList
  let number (digits : List Char) : Nat := digits.foldl (fun n c => 10 * n + (c.toNat - 48)) 0
  if word = "default" || colorNames.any fun line => (line.splitOn " ").contains word then return true
  if cs.head? = some '#' then
    return cs.length = 7 && (cs.drop 1).all fun c => c.isDigit || ('a' ≤ c && c ≤ 'f')
  match argument? "color(" cs with
  | some digits => return 1 ≤ digits.length && digits.length ≤ 3 && digits.all Char.isDigit && number digits ≤ 255
  | none =>
    match argument? "rgb(" cs with
    | none => return false
    | some inner =>
      if inner = [] || !inner.all fun c => c.isDigit || c = ',' then return false
      if (parts inner).length ≠ 3 then return false
      if (parts inner).contains [] then throw .noNumber
      return (parts inner).all (number · ≤ 255)

/-- a style with an attribute set -/
def setAttribute (s : Style) (name : String) (on : Bool) : Style :=
  { s with attributes := (name, on) :: s.attributes.filter (·.1 ≠ name) }

/-- what the word in front asks for -/
inductive Expected where
  | anything
  | background
  | attribute
  | address
  deriving DecidableEq, Repr

/-- a style with what a word adds to it, and what the word asks for; nothing if it makes no sense -/
def readWord (s : Style) (expected : Expected) (original : String) : Except StyleError (Option (Style × Expected)) := do
  let word := Text.lower original
  match expected with
  | .background => return if ← isColor word then some ({ s with background := word }, .anything) else none
  | .attribute => return (attribute? original).map fun name => (s.setAttribute name false, .anything)
  | .address => return some ({ s with address := original }, .anything)
  | .anything =>
    if word = "on" then return some (s, .background)
    if word = "not" then return some (s, .attribute)
    if word = "link" then return some (s, .address)
    match attribute? word with
    | some name => return some (s.setAttribute name true, .anything)
    | none => return if ← isColor word then some ({ s with color := word }, .anything) else none

/-- the style that words add up to, if each of them makes sense and none is missing -/
def ofWords (s : Style) (expected : Expected) : List String → Except StyleError (Option Style)
  | [] => return if expected = .anything then some s else none
  | word :: rest => do
    match ← readWord s expected word with
    | some (s, expected) => ofWords s expected rest
    | none => return none

/-- the words of the normal form -/
def words (s : Style) : List String :=
  (attributeNames.flatMap fun name => match s.attributes.lookup name with
    | some true => [name]
    | some false => ["not", name]
    | none => [])
    ++ s.color.toList
    ++ (s.background.toList.flatMap fun c => ["on", c])
    ++ (s.address.toList.flatMap fun a => ["link", a])

/-- the text of the normal form -/
def toText (s : Style) : String := if s.words = [] then "none" else " ".intercalate s.words

/-- the words of a text -/
def wordsOf (text : List Char) : List String :=
  ((text.splitBy fun a b => !Text.isBlank a && !Text.isBlank b).filter fun w => !w.any Text.isBlank).map String.ofList

/-- the normal form of a text -/
def normal (text : String) : Except StyleError String := do
  if Text.trim text = "none" then return "none"
  match ← ofWords {} .anything (wordsOf text.toList) with
  | some s => return s.toText
  | none => return Text.lower (Text.trim text)

end Style

end Unbundle
