import Asn1Constraints.Text.Split

/-!
Texts of any characters as texts of small letters, digits and hyphens, as RFC 3492
has them. The ASCII characters come first; behind a hyphen follow the others, each as
the number of places and codes to go on before it is put in. Numbers are written
lowest digit first, in a base that adapts to the numbers before.
-/

namespace Asn1Constraints.Punycode

def base : Nat := 36

def digitChar (digit : Nat) : Char :=
  if digit < 26 then Char.ofNat (97 + digit) else Char.ofNat (22 + digit)

def digitValue? (c : Char) : Option Nat :=
  let n := c.toNat
  if c.isLower then some (n - 97)
  else if c.isUpper then some (n - 65)
  else if c.isDigit then some (n - 22)
  else none

/-- From which digit on a number goes on: at least one and at most 26, by the place of
the digit and the bias. -/
def threshold (bias place : Nat) : Nat := max 1 (min 26 (place - bias))

/-- Divide until a number is small, and count the divisions by steps of the base. -/
def shrink : Nat → Nat → Nat → Nat × Nat
  | 0, steps, delta => (steps, delta)
  | budget + 1, steps, delta =>
    if delta ≤ 455 then (steps, delta) else shrink budget (steps + base) (delta / 35)

/-- The bias after a number, with how many characters there are then. -/
def adapt (isFirst : Bool) (delta count : Nat) : Nat :=
  let begun := delta / if isFirst then 700 else 2
  let (steps, rest) := shrink begun 0 (begun + begun / count)
  steps + base * rest / (rest + 38)

/-! Reading. -/

/-- A number from its digits, and what follows it. -/
def readNumber (bias : Nat) : Nat → Nat → Nat → List Char → Option (Nat × List Char)
  | _, _, _, [] => none
  | place, weight, sum, c :: rest =>
    match digitValue? c with
    | none => none
    | some digit =>
      let limit := threshold bias place
      let sum := sum + digit * weight
      if digit < limit then some (sum, rest)
      else readNumber bias (place + base) (weight * (base - limit)) sum rest

/-- Where the next character is put in, counted over all places and codes. -/
structure Progress where
  bias : Nat
  code : Nat
  index : Nat
deriving Repr

def Progress.start : Progress := ⟨72, 128, 0⟩

/-- Put in one character for each number. -/
def readRest : Nat → Progress → List Char → List Char → Option (List Char)
  | _, _, done, [] => some done
  | 0, _, _, _ => none
  | budget + 1, ⟨bias, code, index⟩, done, chars =>
    match readNumber bias base 1 0 chars with
    | none => none
    | some (delta, rest) =>
      let count := done.length + 1
      let code := code + (index + delta) / count
      let place := (index + delta) % count
      if code.isValidChar then
        readRest budget ⟨adapt (index == 0) delta count, code, place + 1⟩
          (done.take place ++ Char.ofNat code :: done.drop place) rest
      else none

/-- The ASCII characters, which end at the last hyphen, and what follows it. -/
def split (chars : List Char) : List Char × List Char :=
  match Text.pieces (· == '-') chars with
  | [] | [_] => ([], chars)
  | pieces => (['-'].intercalate pieces.dropLast, pieces.getLast?.getD [])

/-- A hyphen in front closes nothing. -/
def decode? (chars : List Char) : Option (List Char) :=
  match split chars with
  | ([], _) => readRest chars.length .start [] chars
  | (plain, rest) => readRest rest.length .start plain rest

/-! Writing. -/

def writeNumber (bias : Nat) : Nat → Nat → Nat → List Char
  | 0, _, _ => []
  | budget + 1, place, number =>
    let limit := threshold bias place
    if number < limit then [digitChar number]
    else
      let above := number - limit
      digitChar (limit + above % (base - limit))
        :: writeNumber bias budget (place + base) (above / (base - limit))

/-- A text while it is written: the digits so far, how far the next character is, and
how many characters are done. -/
structure Writing where
  digits : List Char
  bias : Nat
  delta : Nat
  done : Nat
  isFirst : Bool

/-- Pass one character of the text while the characters of one code are written. -/
def Writing.pass (code : Nat) (state : Writing) (c : Char) : Writing :=
  if c.toNat < code then { state with delta := state.delta + 1 }
  else if c.toNat = code then
    let count := state.done + 1
    ⟨state.digits ++ writeNumber state.bias (state.delta + 1) base state.delta,
      adapt state.isFirst state.delta count, 0, count, false⟩
  else state

/-- Write the characters of each code in turn, from the least one on. -/
def writeCodes (chars : List Char) : Nat → Writing → List Nat → Writing
  | _, state, [] => state
  | next, state, code :: rest =>
    let moved := { state with delta := state.delta + (code - next) * (state.done + 1) }
    let passed := chars.foldl (Writing.pass code) moved
    writeCodes chars (code + 1) { passed with delta := passed.delta + 1 } rest

def encode (chars : List Char) : List Char :=
  let plain := chars.filter fun c => c.toNat < 0x80
  let others := (chars.filter fun c => 0x80 ≤ c.toNat).map Char.toNat
  let codes := (others.mergeSort (· ≤ ·)).eraseReps
  let start : Writing := ⟨[], Progress.start.bias, 0, plain.length, true⟩
  let mark := if plain = [] then [] else ['-']
  plain ++ mark ++ (writeCodes chars Progress.start.code start codes).digits

end Asn1Constraints.Punycode
