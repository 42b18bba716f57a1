import Unbundle.Flate.Block
import Unbundle.Text.Digits
/-
Payloads: complete compressed streams inside a buffer.

A raw stream is a sequence of blocks. A framed stream has two octets in front that tell the method and a checksum of the
output behind. `inflate` decompresses the stream that starts at an offset; what follows the stream is not looked at, and a
stream that does not end within the range given is no payload.
-/
namespace Unbundle.Flate

/-- why a range of a buffer holds no payload -/
inductive PayloadError where
  | outOfRange (offset count : Int) (size : Nat)
  | invalid (offset : Int)
  | truncated (offset : Int)
  deriving DecidableEq, Repr

/-- the wording of a cause -/
def PayloadError.message : PayloadError → String
  | .outOfRange offset count size =>
    "range " ++ Text.decimalInt offset ++ "+" ++ Text.decimalInt count ++ " outside of " ++ Text.decimal size
      ++ " byte buffer"
  | .invalid offset => "invalid compressed data at offset " ++ Text.decimalInt offset
  | .truncated offset => "truncated compressed data at offset " ++ Text.decimalInt offset

/-- the checksum at the end of a framed stream -/
def adler32 (bs : Bytes) : Nat :=
  let (a, b) := bs.foldl (fun (a, b) x => let a := (a + x.toNat) % 65521; (a, (b + a) % 65521)) (1, 0)
  65536 * b + a

/-- the two octets in front of a framed stream: method, window, check, and no preset dictionary -/
def frameHeader : Take Unit := do
  let front ← Take.octets 2
  let method := (front.headD 0).toNat
  let flags := (front.tail.headD 0).toNat
  if (256 * method + flags) % 31 ≠ 0 || method % 16 ≠ 8 || 7 < method / 16 then throw .invalid
  if flags / 32 % 2 = 1 then
    let _ ← Take.octets 4
    throw .invalid

/-- a framed stream -/
def framed : Take Output := do
  frameHeader
  let out ← blocks
  let check ← Take.octets 4
  if Bytes.toNat check.reverse ≠ adler32 out.toList then throw .invalid
  return out

/-- a stream, raw or framed -/
def stream (raw : Bool) : Take Output := if raw then blocks else framed

/-- what the stream at the front of some octets decompresses to, if it is complete -/
def decompress (raw : Bool) (octets : Bytes) : Except Fault Bytes :=
  match stream raw ⟨octets, 0⟩ with
  | .ok (out, _) => .ok out.toList
  | .error e => .error e

/-- the payload in the `count` octets of a buffer that start at `offset` -/
def inflate (data : Bytes) (offset count : Int) (raw : Bool) : Except PayloadError Bytes :=
  if offset < 0 ∨ count < 0 ∨ (data.length : Int) < offset + count then .error (.outOfRange offset count data.length)
  else match decompress raw (Bytes.slice data offset.toNat count.toNat) with
    | .ok payload => .ok payload
    | .error .invalid => .error (.invalid offset)
    | .error .truncated => .error (.truncated offset)

end Unbundle.Flate
