import Asn1Constraints.Binary64.Decimal
import Asn1Constraints.Text.Quoted

/-!
Instances of schema types. The components of a sequence are kept in the order
they were given, and nothing prevents a name from occurring twice; the edits
below look at the first component of a name only.
-/

namespace Asn1Constraints

inductive Value where
  | integer (n : Int64)
  | real (x : Binary64)
  | boolean (b : Bool)
  | null
  /-- The number of the selected item. -/
  | enumerated (n : Int64)
  | octetString (bytes : List UInt8)
  | bitString (bits : List Bool)
  | ia5String (text : String)
  | sequenceOf (items : List Value)
  | sequence (components : List (String × Value))
  | choice (alternative : String) (value : Value)
deriving Inhabited

/-! Component lists as maps in insertion order. -/

namespace Components

variable {α : Type}

/-- Replace the value where the name stands, or append it. -/
def set (name : String) (value : α) : List (String × α) → List (String × α)
  | [] => [(name, value)]
  | (other, old) :: rest =>
    if other = name then (other, value) :: rest else (other, old) :: set name value rest

/-- Replace the value of a name that is there. -/
def assign? (name : String) (value : α) : List (String × α) → Option (List (String × α))
  | [] => none
  | (other, old) :: rest =>
    if other = name then some ((other, value) :: rest)
    else (assign? name value rest).map fun assigned => (other, old) :: assigned

/-- Take a name out, with what is left. -/
def remove? (name : String) : List (String × α) → Option (α × List (String × α))
  | [] => none
  | (other, old) :: rest =>
    if other = name then some (old, rest)
    else (remove? name rest).map fun removed => (removed.1, (other, old) :: removed.2)

end Components

namespace Value

def kindLabel : Value → String
  | .integer _ => "integer"
  | .real _ => "real"
  | .boolean _ => "boolean"
  | .null => "null"
  | .enumerated _ => "enumerated"
  | .octetString _ => "octet_string"
  | .bitString _ => "bit_string"
  | .ia5String _ => "ia5_string"
  | .sequenceOf _ => "sequence_of"
  | .sequence _ => "sequence"
  | .choice _ _ => "choice"

/-- Bytes, bits, characters or elements of the kinds that have a size. -/
def size? : Value → Option Nat
  | .octetString bytes => some bytes.length
  | .bitString bits => some bits.length
  | .ia5String text => some text.length
  | .sequenceOf items => some items.length
  | _ => none

/-! Components of a sequence; other kinds have none and refuse every edit. -/

def component? (value : Value) (name : String) : Option Value :=
  match value with
  | .sequence components => components.lookup name
  | _ => none

def setComponent? (value : Value) (name : String) (part : Value) : Option Value :=
  match value with
  | .sequence components => some (.sequence (Components.set name part components))
  | _ => none

def assignComponent? (value : Value) (name : String) (part : Value) : Option Value :=
  match value with
  | .sequence components => (Components.assign? name part components).map .sequence
  | _ => none

/-- The removed component and the value without it. -/
def removeComponent? (value : Value) (name : String) : Option (Value × Value) :=
  match value with
  | .sequence components =>
    (Components.remove? name components).map fun removed => (removed.1, .sequence removed.2)
  | _ => none

/-! Levels of nesting. -/

mutual

def depth : Value → Nat
  | .sequenceOf items => itemsDepth items + 1
  | .sequence components => componentsDepth components + 1
  | .choice _ value => value.depth + 1
  | _ => 0

def itemsDepth : List Value → Nat
  | [] => 0
  | item :: rest => max item.depth (itemsDepth rest)

def componentsDepth : List (String × Value) → Nat
  | [] => 0
  | (_, value) :: rest => max value.depth (componentsDepth rest)

end

/-! Equality as a comparison of numbers: NaN differs from itself and the zeros
are equal. The order of components counts. -/

mutual

def same : Value → Value → Bool
  | .integer n, .integer m => n == m
  | .real x, .real y => x.sameNumber y
  | .boolean b, .boolean c => b == c
  | .null, .null => true
  | .enumerated n, .enumerated m => n == m
  | .octetString bytes, .octetString others => bytes == others
  | .bitString bits, .bitString others => bits == others
  | .ia5String text, .ia5String other => text == other
  | .sequenceOf items, .sequenceOf others => sameItems items others
  | .sequence components, .sequence others => sameComponents components others
  | .choice alternative value, .choice other otherValue =>
    alternative == other && value.same otherValue
  | _, _ => false

def sameItems : List Value → List Value → Bool
  | [], [] => true
  | item :: rest, other :: others => item.same other && sameItems rest others
  | _, _ => false

def sameComponents : List (String × Value) → List (String × Value) → Bool
  | [], [] => true
  | (name, value) :: rest, (other, otherValue) :: others =>
    name == other && value.same otherValue && sameComponents rest others
  | _, _ => false

end

end Value

end Asn1Constraints
