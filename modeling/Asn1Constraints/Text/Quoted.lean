import Asn1Constraints.Text.Shown

/-!
Quoted text in messages: the quote itself, the backslash and the usual controls
have short escapes, and any other character that is not shown by itself is
written as its code point.
-/

namespace Asn1Constraints.Text

def codePointEscape (c : Char) : List Char :=
  ['\\', 'u', '\x7b'] ++ Nat.toDigits 16 c.toNat ++ ['\x7d']

def escapeChar (quote c : Char) : List Char :=
  if c = quote then ['\\', c]
  else if c = '\x00' then ['\\', '0']
  else if c = '\t' then ['\\', 't']
  else if c = '\r' then ['\\', 'r']
  else if c = '\n' then ['\\', 'n']
  else if c = '\\' then ['\\', '\\']
  else if isShown c then [c]
  else codePointEscape c

def quotedChars (quote : Char) (chars : List Char) : List Char :=
  quote :: (chars.flatMap (escapeChar quote) ++ [quote])

def quoted (text : String) : String := String.ofList (quotedChars '"' text.toList)

def quotedChar (c : Char) : String := String.ofList (quotedChars '\'' [c])

end Asn1Constraints.Text
