import Asn1Constraints.Text.Quoted

/-!
Bytes as pairs of hexadecimal digits. Writing uses lower case; reading accepts
both cases and works on the bytes of the text, so a position in an error counts
bytes.
-/

namespace Asn1Constraints.Hex

inductive Error where
  | oddLength
  | invalidCharacter (byte : UInt8) (position : Nat)
deriving DecidableEq, Repr

def Error.message : Error → String
  | .oddLength => "Odd number of digits"
  | .invalidCharacter byte position =>
    let shown := Text.quotedChar (Char.ofNat byte.toNat)
    s!"Invalid character {shown} at position {position}"

def digitChar (n : Nat) : Char :=
  if n < 10 then Char.ofNat (48 + n) else Char.ofNat (87 + n)

def encodeByte (byte : UInt8) : List Char :=
  [digitChar (byte.toNat / 16), digitChar (byte.toNat % 16)]

def encode (bytes : List UInt8) : String := String.ofList (bytes.flatMap encodeByte)

def digitValue? (byte : UInt8) : Option Nat :=
  let n := byte.toNat
  if 48 ≤ n && n ≤ 57 then some (n - 48)
  else if 97 ≤ n && n ≤ 102 then some (n - 87)
  else if 65 ≤ n && n ≤ 70 then some (n - 55)
  else none

/-- The value of a character as a digit. -/
def digitOf? (c : Char) : Option Nat :=
  if c.toNat < 0x80 then digitValue? (UInt8.ofNat c.toNat) else none

def digitValue (byte : UInt8) (position : Nat) : Except Error Nat :=
  match digitValue? byte with
  | some value => .ok value
  | none => .error (.invalidCharacter byte position)

def decodePairs : Nat → List UInt8 → Except Error (List UInt8)
  | position, high :: low :: rest => do
    let upper ← digitValue high position
    let lower ← digitValue low (position + 1)
    let bytes ← decodePairs (position + 2) rest
    return UInt8.ofNat (16 * upper + lower) :: bytes
  | _, _ => .ok []

def decodeBytes (digits : List UInt8) : Except Error (List UInt8) :=
  if digits.length % 2 = 1 then .error .oddLength else decodePairs 0 digits

def decode (text : String) : Except Error (List UInt8) :=
  decodeBytes text.toUTF8.toList

end Asn1Constraints.Hex
