import Asn1Constraints.Text.NameSet
import Asn1Constraints.Toml.Scalar

/-!
Flat TOML text: one `key = value` a line, blank lines and comments between
them, no key twice. Tables, arrays and the other kinds of value are beyond it,
so text that has them is not read at all.
-/

namespace Asn1Constraints.Toml

abbrev Entry := String × Scalar

def isBareKey (c : Char) : Bool := c.isAlphanum || c = '-' || c = '_'

def scanKey : List Char → Scanned String
  | '"' :: rest => scanString .basic rest
  | '\'' :: rest => scanString .literal rest
  | chars =>
    match chars.takeWhile isBareKey with
    | [] => none
    | name => some (String.ofList name, chars.dropWhile isBareKey)

def skipComment : List Char → List Char
  | '#' :: rest => rest.dropWhile isPlain
  | chars => chars

/-- What follows the end of a line; space and a comment may precede it. -/
def lineEnd? (chars : List Char) : Option (List Char) :=
  match skipComment (skipSpaces chars) with
  | [] => some []
  | rest => newline? rest

def scanEntry (chars : List Char) : Option (Entry × List Char) := do
  let (key, afterKey) ← scanKey chars
  match skipSpaces afterKey with
  | '=' :: afterEquals =>
    let (value, afterValue) ← scanScalar (skipSpaces afterEquals)
    return ((key, value), ← lineEnd? afterValue)
  | _ => none

/-- The entries of the text; every line takes at least one character. -/
def scanEntries : Nat → List Char → Option (List Entry)
  | _, [] => some []
  | 0, _ :: _ => none
  | budget + 1, chars =>
    match lineEnd? chars with
    | some rest => scanEntries budget rest
    | none =>
      match scanEntry (skipSpaces chars) with
      | some (entry, rest) => (scanEntries budget rest).map (entry :: ·)
      | none => none

def skipByteOrderMark : List Char → List Char
  | '\ufeff' :: rest => rest
  | chars => chars

def entries? (text : String) : Option (List Entry) := do
  let chars := skipByteOrderMark text.toList
  let entries ← scanEntries chars.length chars
  if (repeatedName? [] (entries.map (·.1))).isSome then none else return entries

end Asn1Constraints.Toml
