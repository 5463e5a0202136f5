import Asn1Constraints.Binary64.Arithmetic
import Asn1Constraints.Json.Basic

/-!
Documents compared by what they stand for. A number is the quotient it denotes,
whichever way it is held, so a whole number is never rounded in order to be
compared with a real. Objects are compared member by member and are expected to
be settled. Only in a long list are the two ways of holding a number told apart.
-/

namespace Asn1Constraints

namespace Json

/-- The quotient a number stands for: a whole number over a positive one. -/
def quotient? : Json → Option (Int × Nat)
  | .integer n => some (n.val, 1)
  | .real x =>
    let size := x.val.numerator
    some (if x.val.negative then -(size : Int) else size, x.val.denominator)
  | _ => none

/-- Below the other, when both are numbers. -/
def isBelow (json other : Json) : Bool :=
  match json.quotient?, other.quotient? with
  | some (n, d), some (m, e) => n * e < m * d
  | _, _ => false

/-- The same number, however each is held. -/
def sameNumber (json other : Json) : Bool :=
  match json.quotient?, other.quotient? with
  | some (n, d), some (m, e) => n * e == m * d
  | _, _ => false

/-- The same number held in the same way. The two zeros among reals differ. -/
def identicalNumber : Json → Json → Bool
  | .integer n, .integer m => n == m
  | .real x, .real y => x == y
  | _, _ => false

mutual

/-- Equal as JSON, objects member by member, with numbers told apart as asked. -/
def equalBy (same : Json → Json → Bool) : Json → Json → Bool
  | .null, .null => true
  | .boolean b, .boolean c => b == c
  | .string text, .string other => text == other
  | .array items, .array others => equalItemsBy same items others
  | .object members, .object others => equalMembersBy same members others
  | .integer n, other => same (.integer n) other
  | .real x, other => same (.real x) other
  | _, _ => false

def equalItemsBy (same : Json → Json → Bool) : List Json → List Json → Bool
  | [], [] => true
  | item :: rest, other :: others => equalBy same item other && equalItemsBy same rest others
  | _, _ => false

def equalMembersBy (same : Json → Json → Bool) :
    List (String × Json) → List (String × Json) → Bool
  | [], [] => true
  | (key, value) :: rest, (other, otherValue) :: others =>
    key == other && equalBy same value otherValue && equalMembersBy same rest others
  | _, _ => false

end

/-- Equal as JSON: numbers by value, objects member by member. -/
def equal (json other : Json) : Bool := json.equalBy sameNumber other

def noneTwice (same : Json → Json → Bool) : List Json → Bool
  | [] => true
  | item :: rest => !rest.any (item.equalBy same) && noneTwice same rest

/-- So many items are compared by value. -/
def fewItems : Nat := 15

/-- Whether no item is there twice. Among many items a number that is held in
another way is another item. -/
def allDistinct (items : List Json) : Bool :=
  noneTwice (if items.length ≤ fewItems then sameNumber else identicalNumber) items

end Json

namespace Binary64

/-- A finite value without fraction. -/
def isWhole (x : Binary64) : Bool := x.numerator % x.denominator == 0

/-- The distance from one to the next value above it. -/
def spacingOfOne : Binary64 := ⟨0x3cb0000000000000⟩

/-- Closer to each other than one is to its neighbour above. -/
def isNear (x y : Binary64) : Bool := (x.sub y).magnitude < spacingOfOne.magnitude

/-- The quotient of finite values, rounded once; a divisor of zero gives infinity. -/
def divFinite (x y : Binary64) : Binary64 :=
  let size :=
    if y.isZero then infiniteMagnitude
    else nearestMagnitude (x.numerator * y.denominator) (x.denominator * y.numerator)
  ofParts (x.negative != y.negative) size

end Binary64

end Asn1Constraints
