import Unbundle.Image.Basic
import Unbundle.Metadata.Defect
/-
The root of an image's metadata: a directory of named streams.
-/
namespace Unbundle.Metadata

/-- a named stream -/
structure Stream where
  name : Bytes
  content : Bytes
  deriving DecidableEq, Repr

/-- the octets of the runtime header -/
def runtimeHeaderSize : Nat := 72

/-- the least multiple of four that is not less than `n` -/
def roundUp (n : Nat) : Nat := (n + 3) / 4 * 4

/-- the longest name that a stream may have -/
def maxNameSize : Nat := 32

/-- the name in a field of a directory entry: the field without the zeros at its end. The field reaches over the first zero to a
multiple of four octets, so that letters behind that zero belong to the name. -/
def nameOfField (field : Bytes) : Bytes := (field.reverse.dropWhile (· = 0)).reverse

/-- at most `count` streams from a directory at `address`, whose places count from `root` -/
def directory (i : Image) (root : Nat) : (count address : Nat) → Option (List Stream)
  | 0, _ => some []
  | count + 1, address => do
    let entry ← i.read? address 8
    guard (entry.length = 8)
    let names ← i.read? (address + 8) maxNameSize
    let width := roundUp ((names.takeWhile (· ≠ 0)).length + 1)
    let size := Bytes.toNat (entry.drop 4)
    let content ← i.read? (root + Bytes.toNat (entry.take 4)) size
    let rest ← directory i root count (address + 8 + width)
    return ⟨nameOfField (names.take width), content⟩ :: rest

/-- what a runtime header says: where the metadata is, how many octets it has, and where the resources start -/
structure RuntimeHeader where
  root : Nat
  size : Nat
  resources : Nat
  deriving DecidableEq, Repr

/-- the runtime header in some octets, if all of it is there -/
def RuntimeHeader.ofBytes? (octets : Bytes) : Option RuntimeHeader :=
  if octets.length < runtimeHeaderSize then none
  else some ⟨Bytes.toNat (octets.slice 8 4), Bytes.toNat (octets.slice 12 4), Bytes.toNat (octets.slice 24 4)⟩

/-- the four letters that metadata starts with, as a number -/
def signature : Nat := 0x424A5342

/-- the octets in front of the version text -/
def rootHeaderSize : Nat := 16

/-- the streams of the metadata that a runtime header points to, if it is metadata -/
def streams? (i : Image) (h : RuntimeHeader) : Except Defect (Option (List Stream)) :=
  match i.read? h.root h.size with
  | none => .ok none
  | some octets =>
    if octets.length < h.size then .ok none
    else if octets.length < 4 then .error .noSignature
    else if octets.length < rootHeaderSize ∨ Bytes.toNat (octets.take 4) ≠ signature then .ok none
    else
      let start := rootHeaderSize + Bytes.toNat (octets.slice 12 4)
      match i.read? (h.root + rootHeaderSize) (start - rootHeaderSize + 4) with
      | none => .ok none
      | some rest =>
        let counts := rest.drop (start - rootHeaderSize)
        if counts.length < 4 then .ok none
        else
          let count := Bytes.toNat (counts.drop 2)
          if count = 0 then .error .noStreams else .ok (directory i h.root count (h.root + start + 4))

end Unbundle.Metadata
