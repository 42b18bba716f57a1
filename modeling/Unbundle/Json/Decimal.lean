/-
Numbers written with a point or an exponent.

A decimal is a count of some power of ten. `isNearZero` and `isNearOne` say whether 0 and 1 are the numbers with 53 binary
digits that are nearest to it; a number half-way between two of them goes to the one whose last binary digit is 0, which 0 and
1 both are. The place of the leading digit is looked at first, so that no power larger than the digits need is computed.
-/
namespace Unbundle.Json

/-- the number `digits * 10 ^ exponent`, or its negative -/
structure Decimal where
  negative : Bool
  digits : Nat
  exponent : Int
  deriving DecidableEq, Repr

namespace Decimal

/-- the place of the leading digit: a decimal other than 0 lies below the power of ten of this place, and not below the next
smaller one -/
def leading (d : Decimal) : Int := (Nat.toDigits 10 d.digits).length + d.exponent

/-- whether the decimal without its sign is at most `n / m` -/
def atMost (d : Decimal) (n m : Nat) : Bool :=
  if 0 ≤ d.exponent then d.digits * Nat.pow 10 d.exponent.toNat * m ≤ n
  else d.digits * m ≤ n * Nat.pow 10 (-d.exponent).toNat

/-- whether the decimal without its sign is at least `n / m` -/
def atLeast (d : Decimal) (n m : Nat) : Bool :=
  if 0 ≤ d.exponent then n ≤ d.digits * Nat.pow 10 d.exponent.toNat * m
  else n * Nat.pow 10 (-d.exponent).toNat ≤ d.digits * m

/-- whether 0 is nearest: the least number above it is `1 / 2 ^ 1074` -/
def isNearZero (d : Decimal) : Bool :=
  d.digits = 0 || d.leading < -400 || (d.leading < 0 && d.atMost 1 (1 <<< 1075))

/-- whether 1 is nearest: its neighbours are `1 - 1 / 2 ^ 53` and `1 + 1 / 2 ^ 52` -/
def isNearOne (d : Decimal) : Bool :=
  !d.negative && d.digits ≠ 0 && (d.leading = 0 || d.leading = 1)
    && d.atLeast ((1 <<< 54) - 1) (1 <<< 54) && d.atMost ((1 <<< 53) + 1) (1 <<< 53)

end Decimal

end Unbundle.Json
