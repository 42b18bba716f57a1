/-
Byte strings and the numbers written in them.

A byte string is a list of octets: every reader below consumes one from the front, and a slice is a `drop` followed by a
`take`. Numbers stand in little-endian order; `signed` reads a number of a given width as two's complement.
-/
namespace Unbundle

/-- a string of octets -/
abbrev Bytes := List UInt8

/-- the number of `bits` bits read as two's complement -/
def signed (bits n : Nat) : Int :=
  if n < 1 <<< (bits - 1) then n else (n : Int) - (1 <<< bits : Nat)

namespace Bytes

/-- the unsigned number whose little-endian digits are the bytes -/
def toNat : Bytes → Nat
  | [] => 0
  | b :: rest => b.toNat + 256 * toNat rest

/-- the lowest `width` little-endian digits of a number -/
def ofNat : (width n : Nat) → Bytes
  | 0, _ => []
  | width + 1, n => UInt8.ofNat (n % 256) :: ofNat width (n / 256)

/-- the two's complement number whose little-endian digits are the bytes -/
def toInt (bs : Bytes) : Int := signed (8 * bs.length) (toNat bs)

/-- the lowest `width` little-endian digits of an integer in two's complement -/
def ofInt (width : Nat) (z : Int) : Bytes := ofNat width (z % (1 <<< (8 * width) : Nat)).toNat

/-- the `count` bytes at `offset`, fewer when the string ends sooner -/
def slice (bs : Bytes) (offset count : Nat) : Bytes := (bs.drop offset).take count

/-- the number of bytes in front of a place that counts from the end when it is negative -/
def placeOf (bs : Bytes) (place : Int) : Nat := (if place < 0 then bs.length + place else place).toNat

/-- the bytes from one place up to another, none when the second stands in front of the first -/
def between (bs : Bytes) (start stop : Int) : Bytes :=
  bs.slice (bs.placeOf start) (bs.placeOf stop - bs.placeOf start)

/-- exactly `width` bytes from the front and the bytes after them, or nothing -/
def split? (width : Nat) (bs : Bytes) : Option (Bytes × Bytes) :=
  if width ≤ bs.length then some (bs.take width, bs.drop width) else none

@[simp] theorem length_ofNat (width n : Nat) : (ofNat width n).length = width := by
  induction width generalizing n with
  | zero => rfl
  | succ width ih => simp [ofNat, ih]

theorem ofNat_toNat (bs : Bytes) : ofNat bs.length (toNat bs) = bs := by
  induction bs with
  | nil => rfl
  | cons b rest ih =>
    have hb : b.toNat < 256 := b.toNat_lt
    have hm : (b.toNat + 256 * toNat rest) % 256 = b.toNat := by omega
    have hd : (b.toNat + 256 * toNat rest) / 256 = toNat rest := by omega
    simp [ofNat, toNat, hm, hd, ih]

theorem split?_append (front rest : Bytes) : split? front.length (front ++ rest) = some (front, rest) := by
  simp [split?]

theorem eq_append_of_split? {width : Nat} {bs front rest : Bytes} (h : split? width bs = some (front, rest)) :
    bs = front ++ rest ∧ front.length = width := by
  unfold split? at h
  split at h
  · next hw =>
    simp only [Option.some.injEq, Prod.mk.injEq] at h
    obtain ⟨rfl, rfl⟩ := h
    simp [hw]
  · simp at h

theorem length_rest_of_split? {width : Nat} {bs front rest : Bytes} (h : split? width bs = some (front, rest)) :
    rest.length + width = bs.length := by
  obtain ⟨rfl, rfl⟩ := eq_append_of_split? h
  simp [Nat.add_comm]

end Bytes

end Unbundle
