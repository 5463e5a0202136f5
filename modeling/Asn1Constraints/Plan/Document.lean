import Asn1Constraints.Plan.Basic

/-!
Plans as JSON documents. A check is written with its id and path first, then
the name of its rule and the limits of that rule.
-/

namespace Asn1Constraints

/-- Rule names, in the order in which a number may stand for one. -/
def ruleNames : List String :=
  ["integer_range", "real_range", "size", "character_string", "enumerated_values",
    "is_boolean", "is_null", "mandatory_fields", "single_alternative"]

def unitNames : List String := ["bytes", "bits", "elements"]

namespace CheckRule

def name : CheckRule → String
  | .integerRange _ => "integer_range"
  | .realRange _ => "real_range"
  | .size _ _ => "size"
  | .characterString _ => "character_string"
  | .enumeratedValues _ => "enumerated_values"
  | .isBoolean => "is_boolean"
  | .isNull => "is_null"
  | .mandatoryFields _ _ => "mandatory_fields"
  | .singleAlternative _ => "single_alternative"

def members : CheckRule → Members
  | .integerRange bounds => bounds.members
  | .realRange bounds => bounds.members
  | .size bounds unit => bounds.members ++ [("unit", .string unit.label)]
  | .characterString bounds => bounds.members
  | .enumeratedValues values => [("values", .array (values.map .ofInt64))]
  | .isBoolean => []
  | .isNull => []
  | .mandatoryFields mandatory declared =>
    [("mandatory", .ofNames mandatory), ("declared", .ofNames declared)]
  | .singleAlternative alternatives => [("alternatives", .ofNames alternatives)]

/-- The rule by itself, without the id and path of a check. -/
def toJson (rule : CheckRule) : Json := .object (("rule", .string rule.name) :: rule.members)

end CheckRule

def Check.toJson (check : Check) : Json :=
  .object ([("id", .ofUInt32 check.id), ("path", .string check.path.text),
    ("rule", .string check.rule.name)] ++ check.rule.members)

def ValidationPlan.toJson (plan : ValidationPlan) : Json :=
  .object [("type_name", .string plan.typeName), ("root_id", .ofUInt32 plan.rootId),
    ("checks", .array (plan.checks.map Check.toJson))]

/-! Reading. -/

namespace SizeUnit

def ofName : String → SizeUnit
  | "bytes" => .bytes
  | "bits" => .bits
  | _ => .elements

def known (name : String) : Except Fault SizeUnit :=
  if unitNames.contains name then .ok (ofName name) else .error (.unknownName name unitNames)

/-- A unit by name, alone or as the only member of an object that holds nothing. -/
def ofJson : Json → Except Fault SizeUnit
  | .string name => known name
  | .object [(name, content)] =>
    match known name, content with
    | .error fault, _ => .error fault
    | .ok unit, .null => .ok unit
    | .ok unit, .object [] => .ok unit
    | .ok _, found => .error (.wrongType found "unit")
  | .object _ => .error .severalMembers
  | found => .error (.wrongType found "string or map")

end SizeUnit

namespace FieldPath

def ofJson (json : Json) : Except Fault FieldPath := do
  let text ← Json.readString json
  (parse text).mapError fun error => .refused error.message

end FieldPath

namespace CheckRule

/-- Both ends of a range, which a rule cannot leave out. -/
def rangeOfMembers {α : Type} (members : Members) (reader : Json → Except Fault α) :
    Except Fault (α × α) := do
  let max ← members.optional? "max" reader
  let min ← members.optional? "min" reader
  return (← required "min" min, ← required "max" max)

def sizeOfMembers (members : Members) : Except Fault CheckRule := do
  let maxSize ← members.optional? "max_size" Json.readUInt64
  let minSize ← members.optional? "min_size" Json.readUInt64
  let unit ← members.optional? "unit" SizeUnit.ofJson
  let minSize ← required "min_size" minSize
  let maxSize ← required "max_size" maxSize
  return .size ⟨minSize, maxSize⟩ (← required "unit" unit)

def componentsOfMembers (members : Members) : Except Fault CheckRule := do
  let declared ← members.optional? "declared" (Json.readList Json.readString)
  let mandatory ← members.optional? "mandatory" (Json.readList Json.readString)
  let mandatory ← required "mandatory" mandatory
  return .mandatoryFields mandatory (← required "declared" declared)

def listOfMembers {α : Type} (members : Members) (name : String)
    (reader : Json → Except Fault α) : Except Fault (List α) := do
  required name (← members.optional? name (Json.readList reader))

def ofParts (name : String) (members : Members) : Except Fault CheckRule :=
  match name with
  | "integer_range" =>
    (rangeOfMembers members Json.readInt64).map fun ends => .integerRange ⟨ends.1, ends.2⟩
  | "real_range" =>
    (rangeOfMembers members Json.readReal).map fun ends => .realRange ⟨ends.1, ends.2⟩
  | "size" => sizeOfMembers members
  | "character_string" => (SizeBounds.ofMembers members).map .characterString
  | "enumerated_values" => (listOfMembers members "values" Json.readInt64).map .enumeratedValues
  | "is_boolean" => .ok .isBoolean
  | "is_null" => .ok .isNull
  | "mandatory_fields" => componentsOfMembers members
  | _ => (listOfMembers members "alternatives" Json.readString).map .singleAlternative

end CheckRule

namespace Check

def ofMembers (members : Members) : Except Fault Check := do
  let id ← members.optional? "id" Json.readUInt32
  let path ← members.optional? "path" FieldPath.ofJson
  let id ← required "id" id
  let path ← required "path" path
  let name ← members.optional? "rule" (Json.readName ruleNames)
  let rule ← CheckRule.ofParts (← required "rule" name) members
  return ⟨id, path, rule⟩

def ofJson : Json → Except Fault Check
  | .object members => ofMembers members
  | found => .error (.wrongType found "struct Check")

end Check

namespace ValidationPlan

def ofMembers (members : Members) : Except Fault ValidationPlan := do
  let checks ← members.optional? "checks" (Json.readList Check.ofJson)
  let rootId ← members.optional? "root_id" Json.readUInt32
  let typeName ← members.optional? "type_name" Json.readString
  let typeName ← required "type_name" typeName
  let rootId ← required "root_id" rootId
  return ⟨typeName, rootId, ← required "checks" checks⟩

def ofItems (items : List Json) : Except Fault ValidationPlan := do
  let expected := "struct ValidationPlan with 3 elements"
  let typeName ← Json.readString (← itemAt items 0 expected)
  let rootId ← Json.readUInt32 (← itemAt items 1 expected)
  let checks ← Json.readList Check.ofJson (← itemAt items 2 expected)
  noFurtherItems items 3
  return ⟨typeName, rootId, checks⟩

def ofJson : Json → Except Fault ValidationPlan
  | .object members => ofMembers members
  | .array items => ofItems items
  | found => .error (.wrongType found "struct ValidationPlan")

end ValidationPlan

end Asn1Constraints
