/-!
Where bytes stop being UTF-8. A fault names the first byte of the sequence that
is none, and how many of its bytes belong together; when the bytes end in the
middle of a sequence there is no such number.
-/

namespace Asn1Constraints.Utf8

structure Fault where
  position : Nat
  length : Option Nat
deriving DecidableEq, Repr

def Fault.message (fault : Fault) : String :=
  match fault.length with
  | some length => s!"invalid utf-8 sequence of {length} bytes from index {fault.position}"
  | none => s!"incomplete utf-8 byte sequence from index {fault.position}"

/-- A sequence that is not complete yet: where it starts, how many bytes it has
and lacks, and the range of the next one. -/
structure Begun where
  start : Nat
  seen : Nat
  left : Nat
  low : Nat
  high : Nat

/-- What the first byte of a longer sequence asks for. -/
def begin? (start byte : Nat) : Option Begun :=
  if 0xc2 ≤ byte && byte ≤ 0xdf then some ⟨start, 1, 1, 0x80, 0xbf⟩
  else if byte = 0xe0 then some ⟨start, 1, 2, 0xa0, 0xbf⟩
  else if byte = 0xed then some ⟨start, 1, 2, 0x80, 0x9f⟩
  else if 0xe1 ≤ byte && byte ≤ 0xef then some ⟨start, 1, 2, 0x80, 0xbf⟩
  else if byte = 0xf0 then some ⟨start, 1, 3, 0x90, 0xbf⟩
  else if 0xf1 ≤ byte && byte ≤ 0xf3 then some ⟨start, 1, 3, 0x80, 0xbf⟩
  else if byte = 0xf4 then some ⟨start, 1, 3, 0x80, 0x8f⟩
  else none

def faultFrom? (index : Nat) (begun : Option Begun) : List UInt8 → Option Fault
  | [] => begun.map fun sequence => ⟨sequence.start, none⟩
  | byte :: rest =>
    let n := byte.toNat
    match begun with
    | none =>
      if n < 0x80 then faultFrom? (index + 1) none rest
      else
        match begin? index n with
        | some sequence => faultFrom? (index + 1) (some sequence) rest
        | none => some ⟨index, some 1⟩
    | some sequence =>
      if sequence.low ≤ n && n ≤ sequence.high then
        if sequence.left = 1 then faultFrom? (index + 1) none rest
        else
          faultFrom? (index + 1)
            (some ⟨sequence.start, sequence.seen + 1, sequence.left - 1, 0x80, 0xbf⟩) rest
      else some ⟨sequence.start, some sequence.seen⟩

def fault? (bytes : List UInt8) : Option Fault := faultFrom? 0 none bytes

end Asn1Constraints.Utf8
