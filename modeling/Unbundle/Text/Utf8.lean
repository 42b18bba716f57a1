import Unbundle.Text.Digits
/-
UTF-8.

`head` takes one well-formed sequence off the front of a byte string, or else the longest beginning of a well-formed
sequence that stands there (at least one octet). The readers are built on it: `decode?` refuses malformed text, `decode` also
tells what is wrong with it, and `decodeLossy` puts U+FFFD in the place of each malformed piece. `encode` writes text back.
-/
namespace Unbundle.Utf8

/-- the character that stands for a malformed piece -/
def replacement : Char := '\uFFFD'

/-- octets that may follow the lead octet `b`, if `b` opens a sequence of several octets: the range of the second octet
and the number of octets after the first -/
def trailing? (b : UInt8) : Option ((UInt8 × UInt8) × Nat) :=
  if 0xC2 ≤ b && b ≤ 0xDF then some ((0x80, 0xBF), 1)
  else if b = 0xE0 then some ((0xA0, 0xBF), 2)
  else if b = 0xED then some ((0x80, 0x9F), 2)
  else if 0xE1 ≤ b && b ≤ 0xEF then some ((0x80, 0xBF), 2)
  else if b = 0xF0 then some ((0x90, 0xBF), 3)
  else if 0xF1 ≤ b && b ≤ 0xF3 then some ((0x80, 0xBF), 3)
  else if b = 0xF4 then some ((0x80, 0x8F), 3)
  else none

/-- the octets that continue a sequence: at most `count`, the first of them in the range given -/
def takeTrailing (range : UInt8 × UInt8) : (count : Nat) → Bytes → Bytes
  | 0, _ => []
  | _, [] => []
  | count + 1, b :: rest =>
    if range.1 ≤ b && b ≤ range.2 then b :: takeTrailing (0x80, 0xBF) count rest else []

/-- the payload bits of the lead octet of a sequence with `count` more octets -/
def leadBits (count : Nat) (b : UInt8) : Nat :=
  match count with
  | 1 => b.toNat % 32
  | 2 => b.toNat % 16
  | _ => b.toNat % 8

/-- the first character, or nothing in its place when the front is malformed, and the number of octets after the first
that belong to it -/
def head (b : UInt8) (rest : Bytes) : Option Char × Nat :=
  if b < 0x80 then (some (Char.ofNat b.toNat), 0)
  else match trailing? b with
    | none => (none, 0)
    | some (range, count) =>
      let more := takeTrailing range count rest
      if more.length = count then
        (some (Char.ofNat (more.foldl (fun n c => 64 * n + c.toNat % 64) (leadBits count b))), count)
      else (none, more.length)

/-- the characters of a byte string, `none` for each malformed piece -/
def pieces : Bytes → List (Option Char)
  | [] => []
  | b :: rest => (head b rest).1 :: pieces (rest.drop (head b rest).2)
termination_by bs => bs.length
decreasing_by simp only [List.length_drop, List.length_cons]; omega

/-- the text of a byte string, U+FFFD for each malformed piece -/
def decodeLossy (bs : Bytes) : String := String.ofList ((pieces bs).map (·.getD replacement))

/-- the text of a well-formed byte string -/
def decode? (bs : Bytes) : Option String := ((pieces bs).mapM id).map String.ofList

/-- what is wrong with a malformed piece -/
inductive Cause where
  /-- no sequence starts with its first octet -/
  | start
  /-- the octet behind it does not continue its sequence -/
  | continuation
  /-- the byte string ends within its sequence -/
  | ended
  deriving DecidableEq, Repr

/-- the first malformed piece of a byte string: its place, its first octet, and how many octets it has -/
structure Fault where
  place : Nat
  octet : UInt8
  size : Nat
  cause : Cause
  deriving DecidableEq, Repr

/-- the words for a cause -/
def Cause.text : Cause → String
  | .start => "invalid start byte"
  | .continuation => "invalid continuation byte"
  | .ended => "unexpected end of data"

/-- the wording of a fault -/
def Fault.message (f : Fault) : String :=
  "'utf-8' codec can't decode " ++
    (if f.size = 1 then "byte " ++ Text.hexByte f.octet ++ " in position " ++ Text.decimal f.place
     else "bytes in position " ++ Text.decimal f.place ++ "-" ++ Text.decimal (f.place + f.size - 1))
    ++ ": " ++ f.cause.text

/-- the first malformed piece of a byte string that stands at a place -/
def faultFrom? (place : Nat) : Bytes → Option Fault
  | [] => none
  | b :: rest =>
    let (c, more) := head b rest
    if c.isSome then faultFrom? (place + more + 1) (rest.drop more)
    else
      let cause := if (trailing? b).isNone then .start else if more = rest.length then .ended else .continuation
      some ⟨place, b, more + 1, cause⟩
termination_by bs => bs.length
decreasing_by simp only [List.length_drop, List.length_cons]; omega

/-- the text of a byte string, or what is wrong with it -/
def decode (bs : Bytes) : Except Fault String :=
  match faultFrom? 0 bs with
  | some f => .error f
  | none => .ok (decodeLossy bs)

/-- the octets of a character -/
def encodeChar (c : Char) : Bytes :=
  let n := c.toNat
  if n < 0x80 then [UInt8.ofNat n]
  else if n < 0x800 then [UInt8.ofNat (0xC0 + n / 64), UInt8.ofNat (0x80 + n % 64)]
  else if n < 0x10000 then
    [UInt8.ofNat (0xE0 + n / 4096), UInt8.ofNat (0x80 + n / 64 % 64), UInt8.ofNat (0x80 + n % 64)]
  else
    [UInt8.ofNat (0xF0 + n / 262144), UInt8.ofNat (0x80 + n / 4096 % 64), UInt8.ofNat (0x80 + n / 64 % 64),
      UInt8.ofNat (0x80 + n % 64)]

/-- the octets of a text -/
def encode (s : String) : Bytes := s.toList.flatMap encodeChar

end Unbundle.Utf8
