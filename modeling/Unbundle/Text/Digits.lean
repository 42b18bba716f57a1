import Unbundle.Bytes
/-
Numbers and octets as text.

Decimal text has no leading zero; a hexadecimal number carries `0x` in front; a byte string is written as two lower-case
digits per octet, so that texts of equal byte strings are equal and no separator is needed.
-/
namespace Unbundle.Text

/-- decimal digits of a natural number -/
def decimal (n : Nat) : String := String.ofList (Nat.toDigits 10 n)

/-- decimal digits of an integer, with a minus sign in front of a negative one -/
def decimalInt (z : Int) : String :=
  if z < 0 then "-" ++ decimal z.natAbs else decimal z.natAbs

/-- `width` digits at least, filled up with zeros on the left -/
def padLeft (width : Nat) (digits : List Char) : List Char :=
  List.replicate (width - digits.length) '0' ++ digits

/-- `0x` and lower-case hexadecimal digits -/
def hex (n : Nat) : String := "0x" ++ String.ofList (Nat.toDigits 16 n)

/-- `0x` and two lower-case hexadecimal digits of an octet -/
def hexByte (b : UInt8) : String := "0x" ++ String.ofList (padLeft 2 (Nat.toDigits 16 b.toNat))

/-- `0x` and eight upper-case hexadecimal digits at least -/
def hexWord (n : Nat) : String :=
  "0x" ++ String.ofList (padLeft 8 ((Nat.toDigits 16 n).map Char.toUpper))

/-- the two lower-case hexadecimal digits of an octet -/
def octetDigits (b : UInt8) : List Char := [Nat.digitChar (b.toNat / 16), Nat.digitChar (b.toNat % 16)]

/-- a byte string as lower-case hexadecimal text -/
def octets (bs : Bytes) : String := String.ofList (bs.flatMap octetDigits)

end Unbundle.Text
