import Unbundle.Bytes
import Unbundle.Text.Digits
/-
Method bodies: a header that tells the length of the code, then the code.

The two lowest bits of the first octet tell the format. A tiny header is that octet alone, its upper six bits the length. A
fat header has twelve octets at least: its own length in words of four octets in the upper four bits of the first 16, the
length of the code in the 32 bits at its fifth octet.

`readBody` reads the body at an offset. `readBodyAt` takes a negative offset, too, which counts from the end of the data: the
first octet is found there, and the place where the code ends counts from the end as long as it is negative.
-/
namespace Unbundle.Code

/-- why no method body stands at an offset -/
inductive BodyError where
  | outOfRange (offset : Nat)
  | truncatedHeader
  | badHeaderSize (size : Nat)
  | unknownFormat (first : UInt8)
  | codeOutOfRange
  deriving DecidableEq, Repr

/-- the wording of a cause -/
def BodyError.message : BodyError → String
  | .outOfRange offset => "method body offset " ++ Text.hex offset ++ " out of range"
  | .truncatedHeader => "truncated fat method header"
  | .badHeaderSize size => "bad fat header size " ++ Text.decimal size
  | .unknownFormat first => "unknown method header format " ++ Text.hexByte first
  | .codeOutOfRange => "method body exceeds available data"

/-- the length of the header at the front of `body` and the length of the code after it -/
def header (first : UInt8) (body : Bytes) : Except BodyError (Nat × Nat) :=
  if first.toNat % 4 = 2 then .ok (1, first.toNat / 4)
  else if first.toNat % 4 = 3 then
    if body.length < 12 then .error .truncatedHeader
    else
      let size := Bytes.toNat (body.take 2) / 4096 * 4
      if size < 12 then .error (.badHeaderSize size) else .ok (size, Bytes.toNat (body.slice 4 4))
  else .error (.unknownFormat first)

/-- the code of the method body at `offset` -/
def readBody (data : Bytes) (offset : Nat) : Except BodyError Bytes :=
  match data.drop offset with
  | [] => .error (.outOfRange offset)
  | first :: rest => do
    let body : Bytes := first :: rest
    let (start, size) ← header first body
    if start + size ≤ body.length then return body.slice start size else throw .codeOutOfRange

/-- why no method body stands at an offset that may be negative -/
inductive PlacedBodyError where
  | body (cause : BodyError)
  /-- the offset lies in front of the data -/
  | beforeStart
  /-- the numbers of a fat header are not all there -/
  | cutHeader
  deriving DecidableEq, Repr

/-- the wording of a cause -/
def PlacedBodyError.message : PlacedBodyError → String
  | .body cause => cause.message
  | .beforeStart => "index out of range"
  | .cutHeader => "method header is cut off"

/-- the octets of a fat header that numbers are read from -/
def numberedOctets : Nat := 8

/-- the code of the method body whose first octet stands `back` octets in front of the end -/
def readBodyFromEnd (data : Bytes) (back : Nat) : Except PlacedBodyError Bytes :=
  if data.length < back then .error .beforeStart
  else match data.drop (data.length - back) with
    | [] => .error .beforeStart
    | first :: rest =>
      if first.toNat % 4 = 3 ∧ back < numberedOctets then .error .cutHeader
      else match header first (first :: rest ++ List.replicate 4 0) with
        | .error cause => .error (.body cause)
        | .ok (start, size) =>
          let start : Int := start - back
          if data.length < start + size then .error (.body .codeOutOfRange)
          else .ok (data.between start (start + size))

/-- the code of the method body at an offset that may be negative -/
def readBodyAt (data : Bytes) (offset : Int) : Except PlacedBodyError Bytes :=
  if offset < 0 then readBodyFromEnd data (-offset).toNat
  else match readBody data offset.toNat with
    | .ok code => .ok code
    | .error cause => .error (.body cause)

end Unbundle.Code
