import Asn1Constraints.Json.Scanner

/-!
Strings, integers and booleans of TOML. A scanner takes a value from the front
of the text and gives back the rest; where the value ends is not its concern,
so what follows may still spoil the line.
-/

namespace Asn1Constraints.Toml

open Json (pushChar codeUnit? hexValue?)

inductive Scalar where
  | string (text : String)
  | integer (n : Int64)
  | boolean (value : Bool)
deriving DecidableEq

abbrev Scanned (α : Type) := Option (α × List Char)

def isSpace (c : Char) : Bool := c = ' ' || c = '\t'

/-- Characters that may stand in a string or a comment as they are. -/
def isPlain (c : Char) : Bool := c = '\t' || (0x20 ≤ c.toNat && c.toNat ≠ 0x7f)

def skipSpaces (chars : List Char) : List Char := chars.dropWhile isSpace

def newline? : List Char → Option (List Char)
  | '\n' :: rest => some rest
  | '\r' :: '\n' :: rest => some rest
  | _ => none

/-! Strings. -/

/-- The four kinds of string differ in their quote, in whether a backslash is an
escape, and in whether they may run over several lines. -/
structure StringStyle where
  quote : Char
  escapes : Bool
  multiline : Bool

def StringStyle.basic : StringStyle := ⟨'"', true, false⟩
def StringStyle.literal : StringStyle := ⟨'\'', false, false⟩
def StringStyle.basicBlock : StringStyle := ⟨'"', true, true⟩
def StringStyle.literalBlock : StringStyle := ⟨'\'', false, true⟩

def shortEscape? (c : Char) : Option Char :=
  match c with
  | 'b' => some '\x08'
  | 't' => some '\t'
  | 'n' => some '\n'
  | 'f' => some '\x0c'
  | 'r' => some '\r'
  | '"' => some '"'
  | '\\' => some '\\'
  | _ => none

def scalarValue? (code : Nat) : Option Char :=
  if code < 0xd800 || (0xe000 ≤ code && code < 0x110000) then some (Char.ofNat code) else none

/-- The character of an escape, after its backslash, and how long the escape is. -/
def escape? : List Char → Option (Char × Nat)
  | 'u' :: a :: b :: c :: d :: _ => do
    let code ← codeUnit? a b c d
    return (← scalarValue? code, 5)
  | 'U' :: a :: b :: c :: d :: e :: f :: g :: h :: _ => do
    let high ← codeUnit? a b c d
    let low ← codeUnit? e f g h
    return (← scalarValue? (high * 0x10000 + low), 9)
  | c :: _ => do
    return (← shortEscape? c, 1)
  | [] => none

/-- What a closing delimiter leaves. A block ends at three quotes, and up to two
more in front of them belong to its text. -/
def closing? (style : StringStyle) (chars : List Char) : Scanned (List Char) :=
  if style.multiline then
    let quotes := (chars.take 5).takeWhile (· = style.quote)
    if 3 ≤ quotes.length then some (quotes.drop 3, chars.drop quotes.length) else none
  else
    match chars with
    | c :: rest => if c = style.quote then some ([], rest) else none
    | [] => none

/-- A backslash with nothing but space after it joins two lines of a block. -/
def joinsLines (style : StringStyle) (afterBackslash : List Char) : Bool :=
  style.multiline && (newline? (skipSpaces afterBackslash)).isSome


/-- Read on from `chars` with so many characters still to be passed over, which
an escape or a line break has used up. While lines are being joined, space and
line breaks are dropped. -/
def scanText (style : StringStyle) (joining : Bool) (used : Nat) :
    List Char → Scanned (List Char)
  | [] => none
  | c :: rest =>
    match used with
    | used + 1 => scanText style joining used rest
    | 0 =>
      let breakLength := if newline? (c :: rest) = none then 0 else if c = '\r' then 2 else 1
      if joining && (isSpace c || 0 < breakLength) then
        scanText style true (breakLength - 1) rest
      else
        match closing? style (c :: rest) with
        | some ended => some ended
        | none =>
          if c = '\\' && style.escapes then
            if joinsLines style rest then scanText style true 0 rest
            else
              match escape? rest with
              | some (shown, length) => pushChar shown (scanText style false length rest)
              | none => none
          else if style.multiline && 0 < breakLength then
            pushChar '\n' (scanText style false (breakLength - 1) rest)
          else if isPlain c then pushChar c (scanText style false 0 rest)
          else none

def scanString (style : StringStyle) (chars : List Char) : Scanned String :=
  (scanText style false 0 chars).map fun scanned => (String.ofList scanned.1, scanned.2)

/-- A block starts on the next line if nothing follows its opening quotes. -/
def scanBlock (style : StringStyle) (chars : List Char) : Scanned String :=
  scanString style ((newline? chars).getD chars)

/-! Integers. -/

/-- Digits with single underscores between them. -/
def takeGrouped (isDigit : Char → Bool) : List Char → List Char × List Char
  | '_' :: c :: rest =>
    if isDigit c then
      let (digits, following) := takeGrouped isDigit rest
      (c :: digits, following)
    else ([], '_' :: c :: rest)
  | c :: rest =>
    if isDigit c then
      let (digits, following) := takeGrouped isDigit rest
      (c :: digits, following)
    else ([], c :: rest)
  | [] => ([], [])

def valueIn (base : Nat) (digits : List Char) : Nat :=
  digits.foldl (fun value digit => value * base + (hexValue? digit).getD 0) 0

def isDigitIn (base : Nat) (c : Char) : Bool :=
  match hexValue? c with
  | some value => value < base
  | none => false

def scalarOfInt? (n : Int) : Option Scalar :=
  if Int64.minValue.toInt ≤ n && n ≤ Int64.maxValue.toInt then some (.integer (Int64.ofInt n))
  else none

/-- An integer in a base other than ten, which has no sign. -/
def scanInBase (base : Nat) : List Char → Scanned Scalar
  | '_' :: _ => none
  | chars =>
    match takeGrouped (isDigitIn base) chars with
    | ([], _) => none
    | (digits, rest) => (scalarOfInt? (valueIn base digits)).map fun scalar => (scalar, rest)

/-- A decimal integer; nothing but a zero starts with a zero. -/
def scanDecimal (negative : Bool) : List Char → Scanned Scalar
  | '0' :: rest => some (.integer 0, rest)
  | '_' :: _ => none
  | chars =>
    match takeGrouped (isDigitIn 10) chars with
    | ([], _) => none
    | (digits, rest) =>
      let size : Int := valueIn 10 digits
      (scalarOfInt? (if negative then -size else size)).map fun scalar => (scalar, rest)

def scanScalar : List Char → Scanned Scalar
  | '"' :: '"' :: '"' :: rest =>
    (scanBlock .basicBlock rest).map fun scanned => (.string scanned.1, scanned.2)
  | '\'' :: '\'' :: '\'' :: rest =>
    (scanBlock .literalBlock rest).map fun scanned => (.string scanned.1, scanned.2)
  | '"' :: rest => (scanString .basic rest).map fun scanned => (.string scanned.1, scanned.2)
  | '\'' :: rest => (scanString .literal rest).map fun scanned => (.string scanned.1, scanned.2)
  | 't' :: 'r' :: 'u' :: 'e' :: rest => some (.boolean true, rest)
  | 'f' :: 'a' :: 'l' :: 's' :: 'e' :: rest => some (.boolean false, rest)
  | '0' :: 'x' :: rest => scanInBase 16 rest
  | '0' :: 'o' :: rest => scanInBase 8 rest
  | '0' :: 'b' :: rest => scanInBase 2 rest
  | '+' :: rest => scanDecimal false rest
  | '-' :: rest => scanDecimal true rest
  | chars => scanDecimal false chars

end Asn1Constraints.Toml
