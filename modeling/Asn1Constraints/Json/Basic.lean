import Asn1Constraints.Binary64.Rounding

/-!
JSON documents. A number is a whole number of the range that text keeps exactly,
or a finite 64-bit real. An object is the list of its members: in text order
while it is being read, in ascending key order once it is settled, and in
declaration order in a document that is about to be written.
-/

namespace Asn1Constraints

/-- A whole number that JSON text keeps exactly: from the least signed to the
greatest unsigned 64-bit number. -/
structure WholeNumber where
  val : Int
  low : -9223372036854775808 ≤ val
  high : val < 18446744073709551616
deriving DecidableEq

structure FiniteNumber where
  val : Binary64
  finite : val.isFinite = true
deriving DecidableEq

inductive Json where
  | null
  | boolean (value : Bool)
  | integer (value : WholeNumber)
  | real (value : FiniteNumber)
  | string (text : String)
  | array (items : List Json)
  | object (members : List (String × Json))
deriving Inhabited

namespace WholeNumber

def ofInt64 (n : Int64) : WholeNumber :=
  ⟨n.toInt, Int64.le_toInt n, Int.lt_of_lt_of_le (Int64.toInt_lt n) (by decide)⟩

def ofUInt64 (n : UInt64) : WholeNumber :=
  ⟨n.toNat, Int.le_trans (by decide) (Int.natCast_nonneg _), by have := n.toNat_lt; omega⟩

def ofUInt32 (n : UInt32) : WholeNumber :=
  ⟨n.toNat, Int.le_trans (by decide) (Int.natCast_nonneg _), by have := n.toNat_lt; omega⟩

def ofInt? (n : Int) : Option WholeNumber :=
  if low : -9223372036854775808 ≤ n then
    if high : n < 18446744073709551616 then some ⟨n, low, high⟩ else none
  else none

end WholeNumber

namespace Json

def ofInt64 (n : Int64) : Json := .integer (.ofInt64 n)
def ofUInt64 (n : UInt64) : Json := .integer (.ofUInt64 n)
def ofUInt32 (n : UInt32) : Json := .integer (.ofUInt32 n)

/-- A size that is known to be far below the word range. -/
def ofNat (n : Nat) : Json := .integer (.ofUInt64 (UInt64.ofNat n))

def ofNames (names : List String) : Json := .array (names.map .string)

def ofReal? (x : Binary64) : Option Json :=
  if finite : x.isFinite = true then some (.real ⟨x, finite⟩) else none

/-- A real in a written document; JSON has no NaN and no infinity, so they become null. -/
def ofReal (x : Binary64) : Json := (ofReal? x).getD .null

def int64? : Json → Option Int64
  | .integer n => if n.val ≤ Int64.maxValue.toInt then some (Int64.ofInt n.val) else none
  | _ => none

/-- Every number is a real; a whole number is rounded to the nearest. -/
def real? : Json → Option Binary64
  | .integer n => some (Binary64.ofInt n.val)
  | .real x => some x.val
  | _ => none

def boolean? : Json → Option Bool
  | .boolean value => some value
  | _ => none

def string? : Json → Option String
  | .string text => some text
  | _ => none

def array? : Json → Option (List Json)
  | .array items => some items
  | _ => none

def object? : Json → Option (List (String × Json))
  | .object members => some members
  | _ => none

/-! Settled objects: ascending keys, the last of repeated keys kept. -/

def insertMember {α : Type} (key : String) (value : α) : List (String × α) → List (String × α)
  | [] => [(key, value)]
  | (other, old) :: rest =>
    if key < other then (key, value) :: (other, old) :: rest
    else if key = other then (key, value) :: rest
    else (other, old) :: insertMember key value rest

def settleMembers {α : Type} (members : List (String × α)) : List (String × α) :=
  members.foldl (fun settled member => insertMember member.1 member.2 settled) []

mutual

def settled : Json → Json
  | .array items => .array (settledItems items)
  | .object members => .object (settleMembers (settledValues members))
  | scalar => scalar

def settledItems : List Json → List Json
  | [] => []
  | item :: rest => item.settled :: settledItems rest

def settledValues : List (String × Json) → List (String × Json)
  | [] => []
  | (key, value) :: rest => (key, value.settled) :: settledValues rest

end

/-! Levels of arrays and objects. -/

mutual

def depth : Json → Nat
  | .array items => itemsDepth items + 1
  | .object members => membersDepth members + 1
  | _ => 0

def itemsDepth : List Json → Nat
  | [] => 0
  | item :: rest => max item.depth (itemsDepth rest)

def membersDepth : List (String × Json) → Nat
  | [] => 0
  | (_, value) :: rest => max value.depth (membersDepth rest)

end

end Json

end Asn1Constraints
