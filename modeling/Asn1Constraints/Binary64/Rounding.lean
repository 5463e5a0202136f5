import Asn1Constraints.Binary64.Basic

/-!
Rounding to the nearest representable value, ties to the even significand. The
quotient to round is exact, so a decimal, an integer and the result of an
arithmetic operation all go through the same function.
-/

namespace Asn1Constraints.Binary64

/-- The whole `l` with `2 ^ l ≤ num / den < 2 ^ (l + 1)`, for a positive quotient. -/
def binaryScale (num den : Nat) : Int :=
  let estimate := (Nat.log2 num : Int) - Nat.log2 den
  if num * Nat.pow 2 (-estimate).toNat < den * Nat.pow 2 estimate.toNat then estimate - 1
  else estimate

def roundHalfEven (num den : Nat) : Nat :=
  let quotient := num / den
  let twice := 2 * (num % den)
  if den < twice || (twice == den && quotient % 2 == 1) then quotient + 1 else quotient

/-- Magnitude of the value nearest to `num / den`. A significand that rounds up
to `2 ^ 53` carries into the exponent field by addition. -/
def nearestMagnitude (num den : Nat) : Nat :=
  if num = 0 then 0 else
    let exponent := max (binaryScale num den - 52) (-1074)
    let significand :=
      roundHalfEven (num * Nat.pow 2 (-exponent).toNat) (den * Nat.pow 2 exponent.toNat)
    min ((exponent + 1074).toNat * exponentUnit + significand) infiniteMagnitude

/-- Magnitude nearest to `digits * 10 ^ exponent`. Exponents that settle the
answer by themselves are cut off before the power is formed. -/
def nearestDecimal (digits : Nat) (exponent : Int) : Nat :=
  if digits = 0 then 0
  else if 400 < exponent then infiniteMagnitude
  else if exponent + Nat.log2 digits < -400 then 0
  else nearestMagnitude (digits * Nat.pow 10 exponent.toNat) (Nat.pow 10 (-exponent).toNat)

def ofDyadic (negative : Bool) (significand : Nat) (exponent : Int) : Binary64 :=
  ofParts negative
    (nearestMagnitude (significand * Nat.pow 2 exponent.toNat) (Nat.pow 2 (-exponent).toNat))

def ofInt (n : Int) : Binary64 :=
  ofParts (n < 0) (nearestMagnitude n.natAbs 1)

end Asn1Constraints.Binary64
