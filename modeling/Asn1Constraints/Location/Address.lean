import Asn1Constraints.Location.Percent
import Asn1Constraints.Text.Split

/-!
Numeric addresses of hosts. Four decimal bytes stand for 32 bits, eight groups
of hexadecimal digits for 128; one run of zero groups may be left out, and the
last two groups may be written as four bytes.
-/

namespace Asn1Constraints.Address

def isHexDigit (c : Char) : Bool := (Hex.digitOf? c).isSome

def decimal (digits : List Char) : Nat :=
  digits.foldl (fun n c => n * 10 + (c.toNat - 48)) 0

def hexadecimal (digits : List Char) : Nat :=
  digits.foldl (fun n c => n * 16 + (Hex.digitOf? c).getD 0) 0

/-- One byte in decimal; only zero itself starts with the digit zero. -/
def byte? (digits : List Char) : Option Nat :=
  let value := decimal digits
  if digits != [] && digits.all Char.isDigit && digits.length ≤ 3 && value ≤ 255
      && (digits.length == 1 || digits.head? != some '0')
  then some value else none

/-- The bytes of a four-byte address. -/
def bytes? (chars : List Char) : Option (List Nat) :=
  match Text.pieces (· == '.') chars with
  | [a, b, c, d] => [a, b, c, d].mapM byte?
  | _ => none

def group? (digits : List Char) : Option Nat :=
  if digits != [] && digits.all isHexDigit && digits.length ≤ 4 then some (hexadecimal digits)
  else none

def tailGroups? : List (List Char) → Option (List Nat)
  | [] => some []
  | [piece] =>
    match group? piece with
    | some value => some [value]
    | none =>
      match bytes? piece with
      | some [a, b, c, d] => some [a * 256 + b, c * 256 + d]
      | _ => none
  | piece :: rest => do
    let value ← group? piece
    let values ← tailGroups? rest
    return value :: values

def headGroups? (chars : List Char) : Option (List Nat) :=
  if chars = [] then some [] else (Text.pieces (· == ':') chars).mapM group?

/-- The eight groups of a long address. -/
def groups? (chars : List Char) : Option (List Nat) :=
  match Text.cutAtPair ':' chars with
  | (all, none) => do
    let groups ← tailGroups? (Text.pieces (· == ':') all)
    if groups.length = 8 then some groups else none
  | (before, some after) => do
    let first ← headGroups? before
    let last ← if after = [] then some [] else tailGroups? (Text.pieces (· == ':') after)
    if first.length + last.length < 8 then
      return first ++ List.replicate (8 - first.length - last.length) 0 ++ last
    else none

/-! Short addresses in locations: up to four numbers, the last of which fills
all the bytes that are left. -/

def number? : List Char → Option Nat
  | '0' :: 'x' :: digits | '0' :: 'X' :: digits =>
    if digits.all isHexDigit then some (hexadecimal digits) else none
  | '0' :: digits =>
    if digits.all fun c => '0' ≤ c && c ≤ '7' then
      some (digits.foldl (fun n c => n * 8 + (c.toNat - 48)) 0)
    else none
  | digits => if digits != [] && digits.all Char.isDigit then some (decimal digits) else none

def labels (host : List Char) : List (List Char) :=
  let labels := Text.pieces (· == '.') host
  if 1 < labels.length && labels.getLast? == some [] then labels.dropLast else labels

/-- Whether a host has to be an address because its last label is a number. -/
def endsInNumber (host : List Char) : Bool :=
  match (labels host).getLast? with
  | some last => last != [] && (last.all Char.isDigit || (number? last).isSome)
  | none => false

/-- The bytes that a host of numbers stands for. -/
def shortBytes? (host : List Char) : Option (List Nat) := do
  let numbers ← (labels host).mapM number?
  let last ← numbers.getLast?
  let leading := numbers.dropLast
  if 4 < numbers.length || leading.any (256 ≤ ·) || Nat.pow 256 (5 - numbers.length) ≤ last then
    none
  else
    let filled := (List.range (4 - leading.length)).reverse.map fun place =>
      last / Nat.pow 256 place % 256
    return leading ++ filled

def bytesText (bytes : List Nat) : String := String.intercalate "." (bytes.map toString)

/-! A long address is written with its longest run of two or more zero groups
left out. -/

def zeroRun (groups : List Nat) : Nat := (groups.takeWhile (· == 0)).length

/-- Start and length of the first longest run. -/
def longestRun : Nat → List Nat → Nat × Nat
  | _, [] => (0, 0)
  | start, group :: rest =>
    let here := zeroRun (group :: rest)
    let later := longestRun (start + 1) rest
    if later.2 ≤ here then (start, here) else later

def groupText (group : Nat) : String := String.ofList (Nat.toDigits 16 group)

def groupsText (groups : List Nat) : String :=
  let written (list : List Nat) : String := String.intercalate ":" (list.map groupText)
  let (start, length) := longestRun 0 groups
  if length < 2 then written groups
  else written (groups.take start) ++ "::" ++ written (groups.drop (start + length))

end Asn1Constraints.Address
