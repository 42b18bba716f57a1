import Unbundle.Bytes
/-
Sets of named values that are stored as one resource.

Such a set starts with four octets of its own and a header that tells how long it is. Behind the header stand a version and
the numbers of values and of types, then the names of the types, and, from a multiple of eight octets on, a digest and a place
for each value and the place of the first value. `isCut` tells a set that ends before all of this is there.
-/
namespace Unbundle.ResourceSet

/-- the four octets that a set starts with, as a number -/
def signature : Nat := 0xBEEFCACE

/-- the least number of octets that are looked into -/
def leastSize : Nat := 32

/-- whether some octets are a set of resources that ends early -/
def isCut (octets : Bytes) : Bool :=
  if octets.length < leastSize ∨ Bytes.toNat (octets.take 4) ≠ signature then false
  else
    let start := 12 + Bytes.toNat (octets.slice 8 4)
    let count := Bytes.toNat (octets.slice (start + 4) 4)
    octets.length < start + 12 || octets.length < start + 12 + 8 * count

end Unbundle.ResourceSet
