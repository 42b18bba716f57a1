import Unbundle.Text.Blank
import Unbundle.Text.Digits
/-
Offsets in manifest entries.

An offset is written in decimal, with an optional sign and layout blanks around it, and must fit in 32 bits. `offsetOf` gives -1
for a missing text or one that is no offset. A number is only read if it does not have too many digits, zeros in front included:
one that has more is neither an offset nor passed over.
-/
namespace Unbundle.Manifest

/-- one of the ten ASCII digits -/
def isDigit (c : Char) : Bool := '0' ≤ c && c ≤ '9'

/-- the number that a list of digits denotes -/
def digitsValue (cs : List Char) : Nat := cs.foldl (fun n c => 10 * n + (c.toNat - 48)) 0

/-- an optional sign taken off the front: the number's sign and the characters after it -/
def splitSign : List Char → Int × List Char
  | '+' :: rest => (1, rest)
  | '-' :: rest => (-1, rest)
  | rest => (1, rest)

/-- the number written by a text, whatever its size -/
def decimal? (text : List Char) : Option Int :=
  let (sign, body) := splitSign (text.dropWhile Text.isLayout)
  let digits := body.takeWhile isDigit
  let rest := body.dropWhile isDigit
  if digits ≠ [] ∧ rest.all Text.isLayout then some (sign * digitsValue digits) else none

/-- the digits that a number may have -/
def digitLimit : Nat := 4300

/-- a number has more digits than are read -/
structure Overlong where
  digits : Nat
  deriving DecidableEq, Repr

namespace Overlong

/-- the wording of a number that is too long -/
def message (fault : Overlong) : String :=
  "Exceeds the limit (" ++ Text.decimal digitLimit ++ " digits) for integer string conversion: value has " ++
    Text.decimal fault.digits ++ " digits"

end Overlong

/-- a number of 32 bits, sign included -/
def inRange (n : Int) : Bool := -0x80000000 ≤ n && n ≤ 0x7FFFFFFF

/-- the offset of an attribute value, -1 if there is none; only a number that is too long is an error -/
def offsetOf : Option String → Except Overlong Int
  | none => .ok (-1)
  | some text =>
    match decimal? text.toList with
    | none => .ok (-1)
    | some n =>
      let digits := text.toList.countP isDigit
      if digitLimit < digits then .error ⟨digits⟩ else .ok (if inRange n then n else -1)

end Unbundle.Manifest
