import Asn1Constraints.Binary64.Decimal
import Asn1Constraints.Json.Compare

/-!
Whether a number is a multiple of another. A divisor without fraction has only
whole multiples, and the division is exact. For any other divisor the rounded
quotient decides: what it leaves after the point has to vanish. A quotient
beyond the range of 64-bit reals is formed from the decimals instead.
-/

namespace Asn1Constraints

namespace Decimal

/-- Whether one decimal is a whole multiple of another. -/
def isMultiple (item divisor : Decimal) : Bool :=
  let shift := item.exponent - divisor.exponent
  let upper := item.digits * Nat.pow 10 shift.toNat
  let lower := divisor.digits * Nat.pow 10 (-shift).toNat
  lower != 0 && upper % lower == 0

end Decimal

namespace Binary64

def isWholeMultiple (item divisor : Binary64) : Bool :=
  let size := divisor.numerator / divisor.denominator
  item.isWhole && size != 0 && item.numerator / item.denominator % size == 0

/-- Whether nothing, or less than the spacing at one, is left after the point.
A negative value never leaves anything above zero. -/
def leavesNothing (quotient : Binary64) : Bool :=
  let left := quotient.numerator % quotient.denominator
  quotient.negative || left * Nat.pow 2 52 < quotient.denominator

def isMultipleOf (item divisor : Binary64) : Bool :=
  if divisor.isWhole then item.isWholeMultiple divisor
  else
    let quotient := item.divFinite divisor
    if quotient.isFinite then quotient.leavesNothing
    else (Decimal.shortest .toEven item).isMultiple (Decimal.shortest .toEven divisor)

end Binary64

end Asn1Constraints
