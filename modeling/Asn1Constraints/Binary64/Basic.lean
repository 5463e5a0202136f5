/-!
Sixty-four bit binary floating point, as its bit pattern. The sign is the top
bit; the other 63 bits, read as a number, are the magnitude, and magnitudes are
ordered as the absolute values they stand for. Order and equality of the
values are therefore order and equality of one integer, the rank, as long as
neither side is NaN.
-/

namespace Asn1Constraints

structure Binary64 where
  bits : UInt64
deriving DecidableEq, Repr, Inhabited

namespace Binary64

def signBit : Nat := 0x8000000000000000

/-- Magnitude of the infinities; larger magnitudes are NaN. -/
def infiniteMagnitude : Nat := 0x7ff0000000000000

def negative (x : Binary64) : Bool := signBit ≤ x.bits.toNat

def magnitude (x : Binary64) : Nat := x.bits.toNat % signBit

def ofParts (negative : Bool) (magnitude : Nat) : Binary64 :=
  ⟨UInt64.ofNat (if negative then signBit + magnitude else magnitude)⟩

def isNaN (x : Binary64) : Bool := infiniteMagnitude < x.magnitude

def isFinite (x : Binary64) : Bool := x.magnitude < infiniteMagnitude

/-- Position on the number line. The two zeros share rank 0. -/
def rank (x : Binary64) : Int :=
  if x.negative then -(x.magnitude : Int) else x.magnitude

/-- At most, as numbers. NaN is not comparable. -/
def atMost (x y : Binary64) : Bool :=
  !x.isNaN && !y.isNaN && x.rank ≤ y.rank

/-- Equal as numbers: the zeros are equal, and NaN differs from itself. -/
def sameNumber (x y : Binary64) : Bool :=
  !x.isNaN && !y.isNaN && x.rank == y.rank

def neg (x : Binary64) : Binary64 := ofParts (!x.negative) x.magnitude

def zero : Binary64 := ⟨0⟩
def one : Binary64 := ⟨0x3ff0000000000000⟩
def half : Binary64 := ⟨0x3fe0000000000000⟩
def quietNaN : Binary64 := ⟨0x7ff8000000000000⟩

/-- The largest finite number and its negative. -/
def greatest : Binary64 := ⟨0x7fefffffffffffff⟩
def least : Binary64 := ⟨0xffefffffffffffff⟩

/-! A finite value is `significand * 2 ^ exponent`, up to its sign. -/

/-- The place value of the exponent field. -/
def exponentUnit : Nat := 0x10000000000000

def exponentField (x : Binary64) : Nat := x.magnitude / exponentUnit

def significand (x : Binary64) : Nat :=
  if x.exponentField = 0 then x.magnitude else exponentUnit + x.magnitude % exponentUnit

def exponent (x : Binary64) : Int :=
  if x.exponentField = 0 then -1074 else (x.exponentField : Int) - 1075

/-- The absolute value as a quotient of naturals. -/
def numerator (x : Binary64) : Nat := x.significand * Nat.pow 2 x.exponent.toNat
def denominator (x : Binary64) : Nat := Nat.pow 2 (-x.exponent).toNat

/-- The whole part of `x * 2 ^ shift`, for a value that is not negative. -/
def floorScaled (x : Binary64) (shift : Nat) : Nat :=
  x.numerator * Nat.pow 2 shift / x.denominator

end Binary64

end Asn1Constraints
