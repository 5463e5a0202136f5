import Asn1Constraints.Binary64.Rounding

/-!
The decimal text of a value. The digits are the fewest that read back to the
value: for each count of digits the two neighbours of the value on that decimal
grid are read back with the same rounding that reads numbers, and the first
count with a hit wins. A layout decides how those digits are spelled.
-/

namespace Asn1Constraints

/-- Which of two equally near candidates is taken. -/
inductive Tie where
  | toEven
  | up

/-- `digits * 10 ^ exponent`. -/
structure Decimal where
  digits : Nat
  exponent : Int
deriving DecidableEq, Repr

namespace Decimal

/-- Move trailing zeros into the exponent. The budget bounds how many. -/
def dropZeros : Nat → Decimal → Decimal
  | 0, d => d
  | budget + 1, d =>
    if d.digits % 10 = 0 && d.digits ≠ 0 then
      dropZeros budget ⟨d.digits / 10, d.exponent + 1⟩
    else d

/-- Grid neighbours of `num / den` for grid `10 ^ exponent`: the lower one, and
twice the remainder above it beside the size of one step. -/
def below (num den : Nat) (exponent : Int) : Nat × Nat × Nat :=
  let scaled := num * Nat.pow 10 (-exponent).toNat
  let step := den * Nat.pow 10 exponent.toNat
  (scaled / step, 2 * (scaled % step), step)

def candidate? (tie : Tie) (num den magnitude : Nat) (exponent : Int) : Option Decimal :=
  let (low, twice, step) := below num den exponent
  let high := low + 1
  let hits (n : Nat) : Bool := Binary64.nearestDecimal n exponent == magnitude
  let takeHigh : Bool :=
    match tie with
    | .up => step ≤ twice
    | .toEven => step < twice || (twice == step && low % 2 == 1)
  match hits low, hits high with
  | true, true => some ⟨if takeHigh then high else low, exponent⟩
  | true, false => some ⟨low, exponent⟩
  | false, true => some ⟨high, exponent⟩
  | false, false => none

/-- The least `k` with `num / den < 10 ^ k` among `k, k + 1, …`. -/
def decimalScale (num den : Nat) : Nat → Int → Int
  | 0, k => k
  | budget + 1, k =>
    if num * Nat.pow 10 (-k).toNat < den * Nat.pow 10 k.toNat then k
    else decimalScale num den budget (k + 1)

def search (tie : Tie) (num den magnitude : Nat) (scale : Int) : List Nat → Option Decimal
  | [] => none
  | count :: counts =>
    match candidate? tie num den magnitude (scale - count) with
    | some found => some found
    | none => search tie num den magnitude scale counts

/-- The exact value, which any binary fraction has in decimal. -/
def exact (x : Binary64) : Decimal :=
  ⟨x.numerator * Nat.pow 5 (-x.exponent).toNat, min x.exponent 0⟩

/-- The fewest digits that read back to the absolute value of a finite number,
and of those the nearest. -/
def shortest (tie : Tie) (x : Binary64) : Decimal :=
  let num := x.numerator
  let den := x.denominator
  if num = 0 then ⟨0, 0⟩ else
    let estimate := (Binary64.binaryScale num den * 30103) / 100000 - 1
    let scale := decimalScale num den 8 estimate
    let found := search tie num den x.magnitude scale ((List.range 17).map (· + 1))
    dropZeros 1100 (found.getD (exact x))

end Decimal

/-- The spelling of a number: which digits on a tie, for which positions of the
point the digits are written out, whether a whole number keeps a fraction, and
whether a positive exponent has a sign. -/
structure Layout where
  tie : Tie
  /-- Whether `0.d₁d₂… * 10 ^ k` is written without an exponent. -/
  positional : Int → Bool
  keepsFraction : Bool
  signsExponent : Bool

namespace Layout

/-- In JSON text: positional from 1e-5 up to below 1e16. -/
def json : Layout := ⟨.toEven, fun k => -4 ≤ k && k ≤ 16, true, true⟩

/-- In sentences: never an exponent, and no fraction on a whole number. -/
def plain : Layout := ⟨.up, fun _ => true, false, false⟩

/-- In dumps of a value: positional from 1e-4 up to below 1e16. -/
def dump : Layout := ⟨.up, fun k => -3 ≤ k && k ≤ 16, true, false⟩

def positionalChars (layout : Layout) (digits : List Char) (point : Int) : List Char :=
  if point ≤ 0 then '0' :: '.' :: (List.replicate (-point).toNat '0' ++ digits)
  else if digits.length ≤ point.toNat then
    digits ++ List.replicate (point.toNat - digits.length) '0'
      ++ if layout.keepsFraction then ['.', '0'] else []
  else digits.take point.toNat ++ '.' :: digits.drop point.toNat

def exponentChars (layout : Layout) (exponent : Int) : List Char :=
  let size := Nat.toDigits 10 exponent.natAbs
  if exponent < 0 then 'e' :: '-' :: size
  else if layout.signsExponent then 'e' :: '+' :: size
  else 'e' :: size

def scientificChars (layout : Layout) (digits : List Char) (point : Int) : List Char :=
  let mantissa :=
    match digits with
    | first :: second :: rest => first :: '.' :: second :: rest
    | short => short
  mantissa ++ layout.exponentChars (point - 1)

def finiteChars (layout : Layout) (x : Binary64) : List Char :=
  let decimal := Decimal.shortest layout.tie x
  let digits := Nat.toDigits 10 decimal.digits
  let point := decimal.exponent + digits.length
  let size :=
    if decimal.digits = 0 then (if layout.keepsFraction then ['0', '.', '0'] else ['0'])
    else if layout.positional point then layout.positionalChars digits point
    else layout.scientificChars digits point
  if x.negative then '-' :: size else size

def chars (layout : Layout) (x : Binary64) : List Char :=
  if x.isNaN then ['N', 'a', 'N']
  else if x.isFinite then layout.finiteChars x
  else if x.negative then ['-', 'i', 'n', 'f']
  else ['i', 'n', 'f']

def text (layout : Layout) (x : Binary64) : String := String.ofList (layout.chars x)

end Layout

end Asn1Constraints
