import Asn1Constraints.Pattern.Search

/-!
Patterns as ECMA 262 writes them. There a class behind a backslash is a fixed set
of characters, and a letter behind `\c` stands for a control character. Both are
spelled out before the pattern is read.
-/

namespace Asn1Constraints.Ecma

/-- The character that a letter makes together with the control key. -/
def controlChar (letter : Char) : Char := Char.ofNat (letter.toUpper.toNat - 64)

def withControls : List Char → List Char
  | '\\' :: 'c' :: letter :: rest =>
    if letter.isAlpha then controlChar letter :: withControls rest
    else '\\' :: 'c' :: withControls (letter :: rest)
  | c :: rest => c :: withControls rest
  | [] => []

def blanks : List Char :=
  [' ', '\t', '\n', '\r', '\x0b', '\x0c', '\u2003', '\ufeff', '\u2029', '\u00a0']

/-- The members of a class behind a backslash, as they stand between brackets. -/
def classMembers? : Char → Option (List Char)
  | 'd' => some "0-9".toList
  | 'D' => some "^0-9".toList
  | 'w' => some "A-Za-z0-9_".toList
  | 'W' => some "^A-Za-z0-9_".toList
  | 's' => some blanks
  | 'S' => some ('^' :: blanks)
  | _ => none

def withClasses : List Char → List Char
  | '\\' :: letter :: rest =>
    match classMembers? letter with
    | some members => '[' :: members ++ ']' :: withClasses rest
    | none => '\\' :: letter :: withClasses rest
  | c :: rest => c :: withClasses rest
  | [] => []

def search? (source : String) : Option Search :=
  Search.ofChars? (withClasses (withControls source.toList))

end Asn1Constraints.Ecma
