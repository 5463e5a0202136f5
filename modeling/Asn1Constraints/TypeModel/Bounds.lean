import Asn1Constraints.Json.Fault

/-!
Declared bounds of the simple kinds. Both ends are inclusive. A bound left out
of a document is the widest one, except for sizes, which are always written.
-/

namespace Asn1Constraints

/-- Names one constraint of a module; 0 stands for no constraint. -/
abbrev ConstraintId := UInt32

structure IntegerBounds where
  min : Int64
  max : Int64
deriving DecidableEq, Repr

structure RealBounds where
  min : Binary64
  max : Binary64
deriving DecidableEq, Repr

/-- Sizes of strings and collections; a fixed size has equal ends. -/
structure SizeBounds where
  minSize : UInt64
  maxSize : UInt64
deriving DecidableEq, Repr

structure EnumItem where
  name : String
  value : Int64
deriving DecidableEq, Repr

namespace IntegerBounds

def unconstrained : IntegerBounds := ⟨Int64.minValue, Int64.maxValue⟩

def contains (bounds : IntegerBounds) (n : Int64) : Bool := bounds.min ≤ n && n ≤ bounds.max

def isConsistent (bounds : IntegerBounds) : Bool := bounds.min ≤ bounds.max

def members (bounds : IntegerBounds) : Members :=
  [("min", .ofInt64 bounds.min), ("max", .ofInt64 bounds.max)]

def ofMembers (members : Members) : Except Fault IntegerBounds := do
  let max ← members.optional? "max" Json.readInt64
  let min ← members.optional? "min" Json.readInt64
  return ⟨min.getD Int64.minValue, max.getD Int64.maxValue⟩

def ofItems (items : List Json) : Except Fault IntegerBounds := do
  let min ← items[0]?.mapM Json.readInt64
  let max ← items[1]?.mapM Json.readInt64
  noFurtherItems items 2
  return ⟨min.getD Int64.minValue, max.getD Int64.maxValue⟩

def ofJson : Json → Except Fault IntegerBounds
  | .object members => ofMembers members
  | .array items => ofItems items
  | found => .error (.wrongType found "struct IntegerBounds")

end IntegerBounds

namespace RealBounds

def unconstrained : RealBounds := ⟨Binary64.least, Binary64.greatest⟩

/-- NaN lies within no bounds. -/
def contains (bounds : RealBounds) (x : Binary64) : Bool :=
  bounds.min.atMost x && x.atMost bounds.max

def isConsistent (bounds : RealBounds) : Bool :=
  !bounds.min.isNaN && !bounds.max.isNaN && bounds.min.atMost bounds.max

def members (bounds : RealBounds) : Members :=
  [("min", .ofReal bounds.min), ("max", .ofReal bounds.max)]

def ofMembers (members : Members) : Except Fault RealBounds := do
  let max ← members.optional? "max" Json.readReal
  let min ← members.optional? "min" Json.readReal
  return ⟨min.getD Binary64.least, max.getD Binary64.greatest⟩

def ofItems (items : List Json) : Except Fault RealBounds := do
  let min ← items[0]?.mapM Json.readReal
  let max ← items[1]?.mapM Json.readReal
  noFurtherItems items 2
  return ⟨min.getD Binary64.least, max.getD Binary64.greatest⟩

def ofJson : Json → Except Fault RealBounds
  | .object members => ofMembers members
  | .array items => ofItems items
  | found => .error (.wrongType found "struct RealBounds")

end RealBounds

namespace SizeBounds

def fixed (size : UInt64) : SizeBounds := ⟨size, size⟩

def isFixed (size : SizeBounds) : Bool := size.minSize == size.maxSize

def contains (size : SizeBounds) (length : Nat) : Bool :=
  size.minSize.toNat ≤ length && length ≤ size.maxSize.toNat

def isConsistent (size : SizeBounds) : Bool := size.minSize ≤ size.maxSize

def members (size : SizeBounds) : Members :=
  [("min_size", .ofUInt64 size.minSize), ("max_size", .ofUInt64 size.maxSize)]

def ofMembers (members : Members) : Except Fault SizeBounds := do
  let maxSize ← members.optional? "max_size" Json.readUInt64
  let minSize ← members.optional? "min_size" Json.readUInt64
  return ⟨← required "min_size" minSize, ← required "max_size" maxSize⟩

def ofItems (items : List Json) : Except Fault SizeBounds := do
  let expected := "struct SizeBounds with 2 elements"
  let minSize ← Json.readUInt64 (← itemAt items 0 expected)
  let maxSize ← Json.readUInt64 (← itemAt items 1 expected)
  noFurtherItems items 2
  return ⟨minSize, maxSize⟩

def ofJson : Json → Except Fault SizeBounds
  | .object members => ofMembers members
  | .array items => ofItems items
  | found => .error (.wrongType found "struct SizeBounds")

end SizeBounds

namespace EnumItem

def toJson (item : EnumItem) : Json :=
  .object [("name", .string item.name), ("value", .ofInt64 item.value)]

def ofMembers (members : Members) : Except Fault EnumItem := do
  let name ← members.optional? "name" Json.readString
  let value ← members.optional? "value" Json.readInt64
  return ⟨← required "name" name, ← required "value" value⟩

def ofItems (items : List Json) : Except Fault EnumItem := do
  let expected := "struct EnumItem with 2 elements"
  let name ← Json.readString (← itemAt items 0 expected)
  let value ← Json.readInt64 (← itemAt items 1 expected)
  exactItems items 2
  return ⟨name, value⟩

def ofJson : Json → Except Fault EnumItem
  | .object members => ofMembers members
  | .array items => ofItems items
  | found => .error (.wrongType found "struct EnumItem")

end EnumItem

end Asn1Constraints
