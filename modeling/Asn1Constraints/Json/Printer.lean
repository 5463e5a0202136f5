import Asn1Constraints.Binary64.Decimal
import Asn1Constraints.Json.Basic

/-!
JSON text. Members are written in the order the document holds them. The
compact form has no blanks at all; the indented form puts two spaces per level
and keeps empty arrays and objects on one line.
-/

namespace Asn1Constraints.Json

def escapeChar (c : Char) : List Char :=
  if c = '"' then ['\\', '"']
  else if c = '\\' then ['\\', '\\']
  else if c = '\x08' then ['\\', 'b']
  else if c = '\t' then ['\\', 't']
  else if c = '\n' then ['\\', 'n']
  else if c = '\x0c' then ['\\', 'f']
  else if c = '\r' then ['\\', 'r']
  else if c.toNat < 0x20 then
    ['\\', 'u', '0', '0', Nat.digitChar (c.toNat / 16), Nat.digitChar (c.toNat % 16)]
  else [c]

def stringChars (text : String) : List Char :=
  '"' :: (text.toList.flatMap escapeChar ++ ['"'])

def wholeChars (n : Int) : List Char :=
  if n < 0 then '-' :: Nat.toDigits 10 n.natAbs else Nat.toDigits 10 n.natAbs

def scalarChars : Json → List Char
  | .null => ['n', 'u', 'l', 'l']
  | .boolean true => ['t', 'r', 'u', 'e']
  | .boolean false => ['f', 'a', 'l', 's', 'e']
  | .integer n => wholeChars n.val
  | .real x => Layout.json.chars x.val
  | .string text => stringChars text
  | .array _ => []
  | .object _ => []

mutual

def compactChars : Json → List Char
  | .array [] => ['[', ']']
  | .array (item :: rest) => '[' :: (item.compactChars ++ compactItems rest)
  | .object [] => ['\x7b', '\x7d']
  | .object ((key, value) :: rest) =>
    '\x7b' :: (stringChars key ++ ':' :: (value.compactChars ++ compactMembers rest))
  | scalar => scalar.scalarChars

/-- The items after the first, and the closing bracket. -/
def compactItems : List Json → List Char
  | [] => [']']
  | item :: rest => ',' :: (item.compactChars ++ compactItems rest)

def compactMembers : List (String × Json) → List Char
  | [] => ['\x7d']
  | (key, value) :: rest =>
    ',' :: (stringChars key ++ ':' :: (value.compactChars ++ compactMembers rest))

end

def text (json : Json) : String := String.ofList json.compactChars

def newline (level : Nat) : List Char := '\n' :: List.replicate (2 * level) ' '

mutual

def indentedChars (level : Nat) : Json → List Char
  | .array [] => ['[', ']']
  | .array (item :: rest) =>
    '[' :: (newline (level + 1) ++ item.indentedChars (level + 1) ++ indentedItems level rest)
  | .object [] => ['\x7b', '\x7d']
  | .object ((key, value) :: rest) =>
    '\x7b' :: (newline (level + 1) ++ stringChars key ++ ':' :: ' ' ::
      (value.indentedChars (level + 1) ++ indentedMembers level rest))
  | scalar => scalar.scalarChars

def indentedItems (level : Nat) : List Json → List Char
  | [] => newline level ++ [']']
  | item :: rest =>
    ',' :: (newline (level + 1) ++ item.indentedChars (level + 1) ++ indentedItems level rest)

def indentedMembers (level : Nat) : List (String × Json) → List Char
  | [] => newline level ++ ['\x7d']
  | (key, value) :: rest =>
    ',' :: (newline (level + 1) ++ stringChars key ++ ':' :: ' ' ::
      (value.indentedChars (level + 1) ++ indentedMembers level rest))

end

def indentedText (json : Json) : String := String.ofList (json.indentedChars 0)

end Asn1Constraints.Json
