import Unbundle.Json.Value
/-
Reading JSON.

A value starts with a character that tells its kind. Besides the standard's values, the three names of numbers that are not
finite are understood. Every level and every item costs a character, which bounds the depth that `value` needs.
-/
namespace Unbundle.Json

/-- a character that may stand between values -/
def isBlank (c : Char) : Bool := c = ' ' || c = '\t' || c = '\n' || c = '\r'

/-- the characters after the blanks at the front -/
def skip (cs : List Char) : List Char := cs.dropWhile isBlank

/-- the value of a hexadecimal digit -/
def hexDigit? (c : Char) : Option Nat :=
  if '0' ≤ c ∧ c ≤ '9' then some (c.toNat - 48)
  else if 'a' ≤ c ∧ c ≤ 'f' then some (c.toNat - 87)
  else if 'A' ≤ c ∧ c ≤ 'F' then some (c.toNat - 55)
  else none

/-- four hexadecimal digits -/
def unit? : List Char → Option (Nat × List Char)
  | a :: b :: c :: d :: rest => do
    let n := 4096 * (← hexDigit? a) + 256 * (← hexDigit? b) + 16 * (← hexDigit? c) + (← hexDigit? d)
    return (n, rest)
  | _ => none

/-- the character of one unit, or of two that belong together; a unit that belongs to no other has no character of its own -/
def unicode? (cs : List Char) : Option (Char × List Char) := do
  let (high, rest) ← unit? cs
  let alone := (if 0xD800 ≤ high ∧ high < 0xE000 then '\uFFFD' else Char.ofNat high, rest)
  if 0xD800 ≤ high ∧ high < 0xDC00 then
    match rest with
    | '\\' :: 'u' :: more =>
      match unit? more with
      | some (low, after) =>
        if 0xDC00 ≤ low ∧ low < 0xE000 then
          return (Char.ofNat (0x10000 + 1024 * (high - 0xD800) + (low - 0xDC00)), after)
        return alone
      | none => return alone
    | _ => return alone
  return alone

/-- the character after a backslash -/
def escape? : List Char → Option (Char × List Char)
  | '"' :: rest => some ('"', rest)
  | '\\' :: rest => some ('\\', rest)
  | '/' :: rest => some ('/', rest)
  | 'b' :: rest => some (Char.ofNat 8, rest)
  | 'f' :: rest => some (Char.ofNat 12, rest)
  | 'n' :: rest => some ('\n', rest)
  | 'r' :: rest => some ('\r', rest)
  | 't' :: rest => some ('\t', rest)
  | 'u' :: rest => unicode? rest
  | _ => none

/-- the characters up to the closing quotation mark, taken from at most `length` characters -/
def stringWithin : (length : Nat) → List Char → Option (List Char × List Char)
  | 0, _ => none
  | _, [] => none
  | length + 1, c :: rest =>
    if c = '"' then some ([], rest)
    else if c = '\\' then do
      let (d, rest) ← escape? rest
      let (cs, rest) ← stringWithin length rest
      return (d :: cs, rest)
    else if c.toNat < 32 then none
    else do
      let (cs, rest) ← stringWithin length rest
      return (c :: cs, rest)

/-- the text behind an opening quotation mark -/
def string? (cs : List Char) : Option (String × List Char) := do
  let (content, rest) ← stringWithin cs.length cs
  return (String.ofList content, rest)

/-- a decimal digit -/
def isDigit (c : Char) : Bool := '0' ≤ c && c ≤ '9'

/-- one or more digits -/
def digits? (cs : List Char) : Option (List Char × List Char) :=
  let front := cs.takeWhile isDigit
  if front = [] then none else some (front, cs.drop front.length)

/-- the number that digits write -/
def numberOf (digits : List Char) : Nat := digits.foldl (fun n c => 10 * n + (c.toNat - 48)) 0

/-- a whole number has at most this many digits -/
def digitLimit : Nat := 4300

/-- the digits behind a point, if there are any -/
def fraction (cs : List Char) : List Char × List Char :=
  match cs with
  | '.' :: rest => (digits? rest).getD ([], cs)
  | _ => ([], cs)

/-- the exponent of a number, if there is one -/
def exponent (cs : List Char) : Option Int × List Char :=
  match cs with
  | e :: rest =>
    if e = 'e' ∨ e = 'E' then
      let (negative, body) := match rest with
        | '+' :: more => (false, more)
        | '-' :: more => (true, more)
        | more => (false, more)
      match digits? body with
      | some (front, rest) => (some (if negative then -numberOf front else numberOf front), rest)
      | none => (none, cs)
    else (none, cs)
  | [] => (none, cs)

/-- a number: no zero stands in front of other digits -/
def number? (cs : List Char) : Option (Value × List Char) := do
  let (negative, body) := match cs with
    | '-' :: rest => (true, rest)
    | rest => (false, rest)
  let (whole, rest) ← match body with
    | '0' :: rest => some (['0'], rest)
    | _ => digits? body
  let (fraction, rest) := fraction rest
  let (exponent, rest) := exponent rest
  if fraction = [] ∧ exponent = none then
    if digitLimit < whole.length then none
    let n : Nat := numberOf whole
    return (.int (if negative then -n else n), rest)
  return (.decimal ⟨negative, numberOf (whole ++ fraction), exponent.getD 0 - fraction.length⟩, rest)

/-- the words that are values -/
def words : List (String × Value) :=
  [("null", .null), ("true", .bool true), ("false", .bool false), ("NaN", .notFinite "NaN"),
    ("Infinity", .notFinite "Infinity"), ("-Infinity", .notFinite "-Infinity")]

/-- a word at the front -/
def word? (cs : List Char) : Option (Value × List Char) :=
  (words.find? fun w => w.1.toList.isPrefixOf cs).map fun w => (w.2, cs.drop w.1.length)

/-- what follows an item: a separator, after which there are more items, or the closing bracket -/
def more? (closing : Char) (cs : List Char) : Option (Bool × List Char) :=
  match skip cs with
  | ',' :: rest => some (true, skip rest)
  | c :: rest => if c = closing then some (false, rest) else none
  | [] => none

mutual

/-- a value nested at most `depth` levels deep -/
def value : (depth : Nat) → List Char → Option (Value × List Char)
  | 0, _ => none
  | depth + 1, cs =>
    match cs with
    | '"' :: rest => (string? rest).map fun (s, rest) => (.text s, rest)
    | '[' :: rest =>
      match skip rest with
      | ']' :: rest => some (.list [], rest)
      | rest => (items depth rest).map fun (vs, rest) => (.list vs, rest)
    | '\x7b' :: rest =>
      match skip rest with
      | '\x7d' :: rest => some (.object [], rest)
      | rest => (members depth rest).map fun (ms, rest) => (.object ms, rest)
    | _ => word? cs <|> number? cs

/-- the items of a list up to its closing bracket -/
def items : (depth : Nat) → List Char → Option (List Value × List Char)
  | 0, _ => none
  | depth + 1, cs => do
    let (v, rest) ← value depth cs
    let (again, rest) ← more? ']' rest
    if again then
      let (vs, rest) ← items depth rest
      return (v :: vs, rest)
    return ([v], rest)

/-- the members of an object up to its closing brace -/
def members : (depth : Nat) → List Char → Option (List (String × Value) × List Char)
  | 0, _ => none
  | depth + 1, cs => do
    match cs with
    | '"' :: rest =>
      let (key, rest) ← string? rest
      match skip rest with
      | ':' :: rest =>
        let (v, rest) ← value depth (skip rest)
        let (again, rest) ← more? '\x7d' rest
        if again then
          let (ms, rest) ← members depth rest
          return ((key, v) :: ms, rest)
        return ([(key, v)], rest)
      | _ => none
    | _ => none

end

/-- the value that a text writes -/
def parse (text : String) : Option Value := do
  let cs := skip text.toList
  let (v, rest) ← value (2 * cs.length + 1) cs
  guard (skip rest = [])
  return v

end Unbundle.Json
