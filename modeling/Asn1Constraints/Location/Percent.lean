import Asn1Constraints.Text.Hex

/-!
Percent encoding of the parts of a location. What has to be encoded depends on
the part; decoding takes every well-formed triple and leaves all else alone.
-/

namespace Asn1Constraints.Percent

def isControl (c : Char) : Bool := c.toNat < 0x20 || 0x7e < c.toNat

def encodedInFragment (c : Char) : Bool :=
  isControl c || [' ', '"', '<', '>', '\x60'].contains c

def encodedInQuery (c : Char) : Bool := isControl c || [' ', '"', '#', '<', '>'].contains c

/-- In the query of a scheme that browsers know. -/
def encodedInSpecialQuery (c : Char) : Bool := encodedInQuery c || c == '\x27'

def encodedInPath (c : Char) : Bool :=
  encodedInFragment c || ['#', '?', '\x7b', '\x7d'].contains c

def encodedInUser (c : Char) : Bool :=
  encodedInPath c || ['/', ':', ';', '=', '@', '[', '\\', ']', '^', '|'].contains c

def encodeByte (byte : UInt8) : List Char :=
  '%' :: (Hex.encodeByte byte).map Char.toUpper

def encodeChar (encoded : Char → Bool) (c : Char) : List Char :=
  if encoded c then (String.utf8EncodeChar c).flatMap encodeByte else [c]

def encode (encoded : Char → Bool) (chars : List Char) : String :=
  String.ofList (chars.flatMap (encodeChar encoded))

def decode : List Char → List UInt8
  | [] => []
  | '%' :: high :: low :: rest =>
    match Hex.digitOf? high, Hex.digitOf? low with
    | some upper, some lower => UInt8.ofNat (16 * upper + lower) :: decode rest
    | _, _ => 37 :: decode (high :: low :: rest)
  | c :: rest => String.utf8EncodeChar c ++ decode rest

end Asn1Constraints.Percent
