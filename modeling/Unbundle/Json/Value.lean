import Unbundle.Json.Decimal
import Unbundle.Text.Digits
/-
Structured values, written as JSON with an indent of two.

The members of an object are written in their order, and a list or an object without content is written on one line. Only
quotation marks, backslashes and control characters are escaped.
-/
namespace Unbundle.Json

/-- a structured value -/
inductive Value where
  | null
  | bool (b : Bool)
  | int (n : Int)
  /-- a number written with a point or an exponent -/
  | decimal (d : Decimal)
  /-- the word for a number that is not finite -/
  | notFinite (word : String)
  | text (s : String)
  | list (items : List Value)
  | object (members : List (String × Value))
  deriving Repr, Inhabited

/-- a text or nothing -/
def Value.ofText? : Option String → Value
  | some s => .text s
  | none => .null

/-- a character inside quotation marks -/
def escapeChar (c : Char) : List Char :=
  if c = '"' then ['\\', '"']
  else if c = '\\' then ['\\', '\\']
  else if c = '\n' then ['\\', 'n']
  else if c = '\r' then ['\\', 'r']
  else if c = '\t' then ['\\', 't']
  else if c.toNat = 8 then ['\\', 'b']
  else if c.toNat = 12 then ['\\', 'f']
  else if c.toNat < 32 then '\\' :: 'u' :: Text.padLeft 4 (Nat.toDigits 16 c.toNat)
  else [c]

/-- a text between quotation marks -/
def quote (s : String) : String := String.ofList ('"' :: (s.toList.flatMap escapeChar ++ ['"']))

/-- a decimal with its digits in front of an exponent -/
def Decimal.toText (d : Decimal) : String :=
  (if d.negative then "-" else "") ++ Text.decimal d.digits ++ "e" ++ Text.decimalInt d.exponent

/-- the start of a line at some depth -/
def newline (depth : Nat) : String := "\n" ++ String.ofList (List.replicate (2 * depth) ' ')

/-- pieces between brackets, each on a line of its own -/
def enclosed (opening closing : String) (depth : Nat) (pieces : List String) : String :=
  if pieces = [] then opening ++ closing
  else opening ++ newline (depth + 1) ++ ("," ++ newline (depth + 1)).intercalate pieces ++ newline depth ++ closing

mutual

/-- a value whose first line is already indented -/
def Value.render (depth : Nat) : Value → String
  | .null => "null"
  | .bool b => if b then "true" else "false"
  | .int n => Text.decimalInt n
  | .decimal d => d.toText
  | .notFinite word => word
  | .text s => quote s
  | .list items => enclosed "[" "]" depth (renderItems (depth + 1) items)
  | .object members => enclosed "\x7b" "\x7d" depth (renderMembers (depth + 1) members)

/-- the items of a list -/
def renderItems (depth : Nat) : List Value → List String
  | [] => []
  | v :: rest => v.render depth :: renderItems depth rest

/-- the members of an object -/
def renderMembers (depth : Nat) : List (String × Value) → List String
  | [] => []
  | (key, v) :: rest => (quote key ++ ": " ++ v.render depth) :: renderMembers depth rest

end

/-- a value as a document -/
def Value.toText (v : Value) : String := v.render 0

end Unbundle.Json
