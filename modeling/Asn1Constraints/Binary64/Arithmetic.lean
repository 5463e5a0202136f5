import Asn1Constraints.Binary64.Rounding

/-!
Sum, difference and product: the exact result, rounded once.
-/

namespace Asn1Constraints.Binary64

def isZero (x : Binary64) : Bool := x.magnitude == 0

/-- A finite value as a multiple of `2 ^ scale`, for a scale not above its exponent. -/
def scaledInt (x : Binary64) (scale : Int) : Int :=
  let size := x.significand * Nat.pow 2 (x.exponent - scale).toNat
  if x.negative then -(size : Int) else size

def addFinite (x y : Binary64) : Binary64 :=
  let scale := min x.exponent y.exponent
  let sum := x.scaledInt scale + y.scaledInt scale
  if sum = 0 then ofParts (x.negative && y.negative) 0
  else ofDyadic (sum < 0) sum.natAbs scale

def add (x y : Binary64) : Binary64 :=
  if x.isNaN || y.isNaN then quietNaN
  else if x.isFinite && y.isFinite then addFinite x y
  else if x.isFinite then y
  else if y.isFinite || x.negative == y.negative then x
  else quietNaN

def sub (x y : Binary64) : Binary64 := add x y.neg

def mul (x y : Binary64) : Binary64 :=
  let negative := x.negative != y.negative
  if x.isNaN || y.isNaN then quietNaN
  else if x.isFinite && y.isFinite then
    ofDyadic negative (x.significand * y.significand) (x.exponent + y.exponent)
  else if x.isZero || y.isZero then quietNaN
  else ofParts negative infiniteMagnitude

end Asn1Constraints.Binary64
