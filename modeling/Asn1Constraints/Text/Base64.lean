/-!
Bytes as characters of six bits each. Groups of four characters stand for three
bytes; the last group is filled up with equals signs, and the bits that it does
not use are zero.
-/

namespace Asn1Constraints.Base64

def digitValue? (c : Char) : Option Nat :=
  if 'A' ≤ c && c ≤ 'Z' then some (c.toNat - 65)
  else if 'a' ≤ c && c ≤ 'z' then some (c.toNat - 71)
  else if '0' ≤ c && c ≤ '9' then some (c.toNat + 4)
  else if c = '+' then some 62
  else if c = '/' then some 63
  else none

def lastByte? (a b : Char) : Option (List UInt8) := do
  let first ← digitValue? a
  let second ← digitValue? b
  if second % 16 = 0 then return [UInt8.ofNat (first * 4 + second / 16)] else none

def lastBytes? (a b c : Char) : Option (List UInt8) := do
  let first ← digitValue? a
  let second ← digitValue? b
  let third ← digitValue? c
  if third % 4 = 0 then
    return [UInt8.ofNat (first * 4 + second / 16),
      UInt8.ofNat (second % 16 * 16 + third / 4)]
  else none

def group? (a b c d : Char) : Option (List UInt8) := do
  let first ← digitValue? a
  let second ← digitValue? b
  let third ← digitValue? c
  let fourth ← digitValue? d
  return [UInt8.ofNat (first * 4 + second / 16), UInt8.ofNat (second % 16 * 16 + third / 4),
    UInt8.ofNat (third % 4 * 64 + fourth)]

def decode? : List Char → Option (List UInt8)
  | [] => some []
  | [a, b, '=', '='] => lastByte? a b
  | [a, b, c, '='] => lastBytes? a b c
  | a :: b :: c :: d :: rest => do
    let bytes ← group? a b c d
    let others ← decode? rest
    return bytes ++ others
  | _ => none

end Asn1Constraints.Base64
