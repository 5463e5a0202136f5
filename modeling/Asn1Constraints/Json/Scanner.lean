import Asn1Constraints.Json.Fault

/-!
Reading JSON text. A scanner takes what it needs from the front of the text and
gives back the rest. The loops over items and members are shared: a document
scanner keeps what it meets, a typed scanner reads each part as it arrives, so
the fault that comes first in the text is the one reported.

A scanner that keeps values is exact: escapes must denote characters and
numbers must be representable. Text that is only skipped is checked for its
form alone.
-/

namespace Asn1Constraints.Json

inductive Error where
  /-- The text is not JSON. -/
  | unreadable
  /-- The document is not the thing it is read as. -/
  | mismatch (fault : Fault)

abbrev Scanned (α : Type) := Except Error (α × List Char)

def isBlank (c : Char) : Bool := c = ' ' || c = '\n' || c = '\t' || c = '\r'

def skipBlanks (chars : List Char) : List Char := chars.dropWhile isBlank

/-! Strings. -/

def hexValue? (c : Char) : Option Nat :=
  if '0' ≤ c && c ≤ '9' then some (c.toNat - 48)
  else if 'a' ≤ c && c ≤ 'f' then some (c.toNat - 87)
  else if 'A' ≤ c && c ≤ 'F' then some (c.toNat - 55)
  else none

def codeUnit? (a b c d : Char) : Option Nat := do
  let first ← hexValue? a
  let second ← hexValue? b
  let third ← hexValue? c
  let fourth ← hexValue? d
  return ((first * 16 + second) * 16 + third) * 16 + fourth

def leadsPair (unit : Nat) : Bool := 0xd800 ≤ unit && unit < 0xdc00
def trailsPair (unit : Nat) : Bool := 0xdc00 ≤ unit && unit < 0xe000

def pairedChar (lead trail : Nat) : Char :=
  Char.ofNat (0x10000 + (lead - 0xd800) * 0x400 + (trail - 0xdc00))

def shortEscape? (c : Char) : Option Char :=
  match c with
  | '"' => some '"'
  | '\\' => some '\\'
  | '/' => some '/'
  | 'b' => some '\x08'
  | 'f' => some '\x0c'
  | 'n' => some '\n'
  | 'r' => some '\r'
  | 't' => some '\t'
  | _ => none

def pushChar (c : Char) : Option (List Char × List Char) → Option (List Char × List Char)
  | some (text, rest) => some (c :: text, rest)
  | none => none

/-- The characters up to the closing quote. -/
def scanText (exact : Bool) : List Char → Option (List Char × List Char)
  | [] => none
  | '"' :: rest => some ([], rest)
  | '\\' :: 'u' :: a :: b :: c :: d :: rest =>
    match codeUnit? a b c d with
    | none => none
    | some unit =>
      if !exact then pushChar ' ' (scanText exact rest)
      else if trailsPair unit then none
      else if leadsPair unit then
        match rest with
        | '\\' :: 'u' :: e :: f :: g :: h :: following =>
          match codeUnit? e f g h with
          | none => none
          | some trail =>
            if trailsPair trail then pushChar (pairedChar unit trail) (scanText exact following)
            else none
        | _ => none
      else pushChar (Char.ofNat unit) (scanText exact rest)
  | '\\' :: c :: rest =>
    match shortEscape? c with
    | none => none
    | some shown => pushChar shown (scanText exact rest)
  | c :: rest => if c.toNat < 0x20 then none else pushChar c (scanText exact rest)

def scanString (exact : Bool) (chars : List Char) : Scanned String :=
  match scanText exact chars with
  | some (text, rest) => .ok (String.ofList text, rest)
  | none => .error .unreadable

/-! Numbers. -/

def digitsValue (digits : List Char) : Nat :=
  digits.foldl (fun value digit => value * 10 + (digit.toNat - 48)) 0

def takeDigits (chars : List Char) : List Char × List Char :=
  (chars.takeWhile Char.isDigit, chars.dropWhile Char.isDigit)

def takeSign : List Char → Bool × List Char
  | '-' :: rest => (true, rest)
  | chars => (false, chars)

/-- Digits after a point; no point, no digits. -/
def takeFraction : List Char → Option (Option (List Char) × List Char)
  | '.' :: rest =>
    match takeDigits rest with
    | ([], _) => none
    | (digits, following) => some (some digits, following)
  | chars => some (none, chars)

def takeExponent (chars : List Char) : Option (Option Int × List Char) :=
  let signed : List Char → Option (Option Int × List Char) := fun rest =>
    let (negative, unsigned) :=
      match rest with
      | '+' :: following => (false, following)
      | other => takeSign other
    match takeDigits unsigned with
    | ([], _) => none
    | (digits, following) =>
      let size : Int := digitsValue digits
      some (some (if negative then -size else size), following)
  match chars with
  | 'e' :: rest => signed rest
  | 'E' :: rest => signed rest
  | _ => some (none, chars)

/-- The parts of a number as they are written. -/
structure Numeral where
  negative : Bool
  whole : List Char
  fraction : Option (List Char)
  exponent : Option Int

def scanNumeral (chars : List Char) : Option (Numeral × List Char) :=
  let (negative, unsigned) := takeSign chars
  let (whole, afterWhole) := takeDigits unsigned
  if whole = [] || (whole.head? = some '0' && whole ≠ ['0']) then none else
    match takeFraction afterWhole with
    | none => none
    | some (fraction, afterFraction) =>
      match takeExponent afterFraction with
      | none => none
      | some (exponent, rest) => some (⟨negative, whole, fraction, exponent⟩, rest)

namespace Numeral

def decimal (numeral : Numeral) : Nat × Int :=
  let fraction := numeral.fraction.getD []
  (digitsValue (numeral.whole ++ fraction), numeral.exponent.getD 0 - fraction.length)

def real? (numeral : Numeral) : Option Json :=
  let (digits, exponent) := numeral.decimal
  ofReal? (Binary64.ofParts numeral.negative (Binary64.nearestDecimal digits exponent))

/-- Without fraction and exponent the number stays whole if it fits; minus zero
is a real. -/
def number? (numeral : Numeral) : Option Json :=
  if numeral.fraction.isSome || numeral.exponent.isSome then numeral.real?
  else
    let size : Int := digitsValue numeral.whole
    if numeral.negative && size = 0 then numeral.real?
    else
      match WholeNumber.ofInt? (if numeral.negative then -size else size) with
      | some n => some (.integer n)
      | none => numeral.real?

end Numeral

def scanNumber (exact : Bool) (chars : List Char) : Scanned Json :=
  match scanNumeral chars with
  | none => .error .unreadable
  | some (numeral, rest) =>
    if !exact then .ok (.null, rest)
    else
      match numeral.number? with
      | some number => .ok (number, rest)
      | none => .error .unreadable

/-! Scalars. -/

def expectWord (word : List Char) (chars : List Char) : Scanned Unit :=
  if word.isPrefixOf chars then .ok ((), chars.drop word.length) else .error .unreadable

def scanScalar (exact : Bool) (chars : List Char) : Scanned Json :=
  match chars with
  | 'n' :: _ => (expectWord ['n', 'u', 'l', 'l'] chars).map fun scanned => (.null, scanned.2)
  | 't' :: _ =>
    (expectWord ['t', 'r', 'u', 'e'] chars).map fun scanned => (.boolean true, scanned.2)
  | 'f' :: _ =>
    (expectWord ['f', 'a', 'l', 's', 'e'] chars).map fun scanned => (.boolean false, scanned.2)
  | '"' :: rest => (scanString exact rest).map fun scanned => (.string scanned.1, scanned.2)
  | _ => scanNumber exact chars

/-! Loops. Every round takes at least one character, so the length of the whole
text is budget enough for each of them, however deep it is nested. -/

/-- Items after an opening bracket, the closing bracket included. -/
def foldItems {σ : Type} (item : σ → List Char → Scanned σ) :
    Nat → σ → List Char → Scanned σ
  | 0, _, _ => .error .unreadable
  | budget + 1, state, chars =>
    match item state (skipBlanks chars) with
    | .error error => .error error
    | .ok (state, rest) =>
      match skipBlanks rest with
      | ',' :: following => foldItems item budget state following
      | ']' :: following => .ok (state, following)
      | _ => .error .unreadable

def scanItems {σ : Type} (budget : Nat) (item : σ → List Char → Scanned σ) (state : σ)
    (chars : List Char) : Scanned σ :=
  match skipBlanks chars with
  | ']' :: rest => .ok (state, rest)
  | trimmed => foldItems item budget state trimmed

/-- Members after an opening brace, the closing brace included. A key that is
taken is refused at once, before the value that should follow it. -/
def foldMembers {σ : Type} (exact : Bool) (isTaken : σ → String → Bool)
    (member : σ → String → List Char → Scanned σ) : Nat → σ → List Char → Scanned σ
  | 0, _, _ => .error .unreadable
  | budget + 1, state, chars =>
    match skipBlanks chars with
    | '"' :: rest =>
      match scanString exact rest with
      | .error error => .error error
      | .ok (key, afterKey) =>
        if isTaken state key then .error (.mismatch (.repeated key))
        else
          match skipBlanks afterKey with
          | ':' :: afterColon =>
            match member state key (skipBlanks afterColon) with
            | .error error => .error error
            | .ok (state, afterValue) =>
              match skipBlanks afterValue with
              | ',' :: following => foldMembers exact isTaken member budget state following
              | '\x7d' :: following => .ok (state, following)
              | _ => .error .unreadable
          | _ => .error .unreadable
    | _ => .error .unreadable

def scanMembers {σ : Type} (exact : Bool) (budget : Nat) (isTaken : σ → String → Bool)
    (member : σ → String → List Char → Scanned σ) (state : σ) (chars : List Char) : Scanned σ :=
  match skipBlanks chars with
  | '\x7d' :: rest => .ok (state, rest)
  | trimmed => foldMembers exact isTaken member budget state trimmed

/-- Documents keep repeated members. -/
def noneTaken {σ : Type} (_ : σ) (_ : String) : Bool := false

/-! Documents. Arrays and objects may nest as deep as the given number of
levels; members stay in text order, repeated ones included. -/

def scanDocument (exact : Bool) (budget : Nat) : Nat → List Char → Scanned Json
  | 0, chars =>
    match chars with
    | '[' :: _ => .error .unreadable
    | '\x7b' :: _ => .error .unreadable
    | _ => scanScalar exact chars
  | levels + 1, chars =>
    match chars with
    | '[' :: rest =>
      let item (items : List Json) (text : List Char) : Scanned (List Json) :=
        (scanDocument exact budget levels text).map fun scanned => (scanned.1 :: items, scanned.2)
      (scanItems budget item [] rest).map fun scanned => (.array scanned.1.reverse, scanned.2)
    | '\x7b' :: rest =>
      let member (members : Members) (key : String) (text : List Char) : Scanned Members :=
        (scanDocument exact budget levels text).map fun scanned =>
          ((key, scanned.1) :: members, scanned.2)
      (scanMembers exact budget noneTaken member [] rest).map fun scanned =>
        (.object scanned.1.reverse, scanned.2)
    | _ => scanScalar exact chars

/-- How deep a document that is kept may nest. -/
def levelLimit : Nat := 127

/-- Whatever value comes next, at any depth, without keeping it. -/
def skipDocument (budget : Nat) (chars : List Char) : Scanned Unit :=
  (scanDocument false budget budget chars).map fun scanned => ((), scanned.2)

/-- Nothing but blanks may follow a document. -/
def finish {α : Type} : Scanned α → Except Error α
  | .error error => .error error
  | .ok (value, rest) => if skipBlanks rest = [] then .ok value else .error .unreadable

/-- The document in a text, its objects settled. -/
def parseChars (chars : List Char) : Except Error Json :=
  (finish (scanDocument true chars.length levelLimit (skipBlanks chars))).map settled

def parse (text : String) : Except Error Json := parseChars text.toList

/-- The document in a text, read as something else. -/
def parseAs {α : Type} (reader : Json → Except Fault α) (text : String) : Except Error α :=
  match parse text with
  | .error error => .error error
  | .ok json => (reader json).mapError .mismatch

end Asn1Constraints.Json
