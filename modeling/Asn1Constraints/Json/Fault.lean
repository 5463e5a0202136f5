import Asn1Constraints.Json.Printer
import Asn1Constraints.Text.Quoted

/-!
Why a JSON document is not the thing it is read as, and the readers of its
simple parts. A record is read from an object, where unknown members are
ignored, or from an array that holds its parts in declaration order.
-/

namespace Asn1Constraints

inductive Fault where
  | wrongType (found : Json) (expected : String)
  | outOfRange (found : Int) (expected : String)
  | missing (name : String)
  | repeated (name : String)
  | unknownName (found : String) (known : List String)
  | unknownIndex (found : Int) (count : Nat)
  | shortArray (length : Nat) (expected : String)
  | longArray (length : Nat)
  | extraItems (length count : Nat)
  | severalMembers
  | refused (reason : String)

namespace Fault

def foundText : Json → String
  | .null => "null"
  | .boolean true => "boolean `true`"
  | .boolean false => "boolean `false`"
  | .integer n =>
    let digits := String.ofList (Json.wholeChars n.val)
    s!"integer `{digits}`"
  | .real x =>
    let digits := Layout.json.text x.val
    s!"floating point `{digits}`"
  | .string text =>
    let shown := Text.quoted text
    s!"string {shown}"
  | .array _ => "sequence"
  | .object _ => "map"

def message : Fault → String
  | .wrongType found expected =>
    let shown := foundText found
    s!"invalid type: {shown}, expected {expected}"
  | .outOfRange found expected => s!"invalid value: integer `{found}`, expected {expected}"
  | .missing name => s!"missing field `{name}`"
  | .repeated name => s!"duplicate field `{name}`"
  | .unknownName found known =>
    let listed := String.intercalate ", " (known.map fun name => s!"`{name}`")
    s!"unknown variant `{found}`, expected one of {listed}"
  | .unknownIndex found count =>
    s!"invalid value: integer `{found}`, expected variant index 0 <= i < {count}"
  | .shortArray length expected => s!"invalid length {length}, expected {expected}"
  | .longArray length => s!"invalid length {length}, expected fewer elements in array"
  | .extraItems length count => s!"invalid length {length}, expected {count} elements in sequence"
  | .severalMembers => "invalid value: map, expected map with a single key"
  | .refused reason => reason

end Fault

namespace Json

def readString : Json → Except Fault String
  | .string text => .ok text
  | found => .error (.wrongType found "a string")

def readBoolean : Json → Except Fault Bool
  | .boolean value => .ok value
  | found => .error (.wrongType found "a boolean")

def readUInt32 : Json → Except Fault UInt32
  | .integer n =>
    if 0 ≤ n.val && n.val < UInt32.size then .ok (UInt32.ofNat n.val.toNat)
    else .error (.outOfRange n.val "u32")
  | found => .error (.wrongType found "u32")

def readUInt64 : Json → Except Fault UInt64
  | .integer n =>
    if 0 ≤ n.val then .ok (UInt64.ofNat n.val.toNat) else .error (.outOfRange n.val "u64")
  | found => .error (.wrongType found "u64")

def readInt64 : Json → Except Fault Int64
  | .integer n =>
    if n.val ≤ Int64.maxValue.toInt then .ok (Int64.ofInt n.val)
    else .error (.outOfRange n.val "i64")
  | found => .error (.wrongType found "i64")

def readReal (json : Json) : Except Fault Binary64 :=
  match json.real? with
  | some x => .ok x
  | none => .error (.wrongType json "f64")

def readList {α : Type} (reader : Json → Except Fault α) : Json → Except Fault (List α)
  | .array items => items.mapM reader
  | found => .error (.wrongType found "a sequence")

/-- One of `known`, by name or by position in the list. -/
def readName (known : List String) : Json → Except Fault String
  | .string text =>
    if known.contains text then .ok text else .error (.unknownName text known)
  | .integer n =>
    if n.val < 0 then .error (.wrongType (.integer n) "variant identifier")
    else match known[n.val.toNat]? with
      | some name => .ok name
      | none => .error (.unknownIndex n.val known.length)
  | found => .error (.wrongType found "variant identifier")

end Json

/-! Parts of a record. -/

abbrev Members := List (String × Json)

namespace Members

/-- The member of that name, if there is one; a second one is a fault. -/
def part? (members : Members) (name : String) : Except Fault (Option Json) :=
  if 1 < members.countP (·.1 == name) then .error (.repeated name)
  else .ok (members.lookup name)

def optional? {α : Type} (members : Members) (name : String)
    (reader : Json → Except Fault α) : Except Fault (Option α) := do
  match ← members.part? name with
  | some json => return some (← reader json)
  | none => return none

end Members

/-- The part a record cannot do without. -/
def required {α : Type} (name : String) : Option α → Except Fault α
  | some value => .ok value
  | none => .error (.missing name)

/-- The item at a position of an array that stands for a record. -/
def itemAt (items : List Json) (position : Nat) (expected : String) : Except Fault Json :=
  match items[position]? with
  | some json => .ok json
  | none => .error (.shortArray position expected)

/-- No items beyond the parts of a record that stands by itself. -/
def noFurtherItems (items : List Json) (count : Nat) : Except Fault Unit :=
  if count < items.length then .error (.longArray items.length) else .ok ()

/-- No items beyond the parts of a record inside a type node. -/
def exactItems (items : List Json) (count : Nat) : Except Fault Unit :=
  if count < items.length then .error (.extraItems items.length count) else .ok ()

end Asn1Constraints
