import Unbundle.Signature.Reader
import Unbundle.Text.Utf8
/-
Heaps: the texts and octet strings that table rows point into.
-/
namespace Unbundle.Metadata

/-- the heaps of texts and of octet strings -/
structure Heaps where
  texts : Bytes
  blobs : Bytes
  deriving DecidableEq, Repr

namespace Heaps

/-- the octets up to the first zero; without a zero the last of them is lost -/
def upToZero (octets : Bytes) : Bytes :=
  if octets.contains 0 then octets.takeWhile (· ≠ 0) else octets.dropLast

/-- the text at a place: what stands there up to a zero; octets that are no text count as the empty one -/
def text (h : Heaps) (place : Nat) : String := (Utf8.decode? (upToZero (h.texts.drop place))).getD ""

/-- the octet string at a place: a compressed length and as many octets -/
def blob (h : Heaps) (place : Nat) : Bytes :=
  match Signature.Reader.number (.start (h.blobs.drop place)) with
  | .ok size c => c.rest.take size
  | .error _ _ => []

end Heaps

end Unbundle.Metadata
