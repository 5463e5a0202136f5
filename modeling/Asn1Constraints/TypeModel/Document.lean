import Asn1Constraints.TypeModel.Basic

/-!
Type models as JSON documents. A node is written with its id first, left out
when it is 0, then its kind and the parts of that kind. Reading a node takes the
id before the kind and the kind before its parts; the number of levels of the
document bounds how deep its nodes can nest.
-/

namespace Asn1Constraints

/-- Kind names, in the order in which a number may stand for one. -/
def kindNames : List String :=
  ["integer", "real", "boolean", "null", "enumerated", "octet_string", "bit_string",
    "ia5_string", "sequence_of", "sequence", "choice", "reference"]

def optionalMember (optional : Bool) : Members :=
  if optional then [("optional", .boolean true)] else []

def idMember (id : ConstraintId) : Members :=
  if id = 0 then [] else [("id", .ofUInt32 id)]

mutual

def TypeNode.toJson : TypeNode → Json
  | .reference id target =>
    .object (idMember id ++ [("kind", .string "reference"), ("target", .string target)])
  | .shaped id shape =>
    .object (idMember id ++ ("kind", .string shape.label) :: shapeMembers shape)

def shapeMembers : Shape TypeNode → Members
  | .integer bounds => bounds.members
  | .real bounds => bounds.members
  | .boolean => []
  | .null => []
  | .enumerated items => [("items", .array (items.map EnumItem.toJson))]
  | .octetString size => size.members
  | .bitString size => size.members
  | .ia5String size => size.members
  | .sequenceOf size element => size.members ++ [("element", element.toJson)]
  | .sequence components => [("fields", .array (componentsJson components))]
  | .choice alternatives => [("alternatives", .array (alternativesJson alternatives))]

def componentsJson : List (Component TypeNode) → List Json
  | [] => []
  | ⟨name, optional, type⟩ :: rest =>
    .object (("name", .string name) :: (optionalMember optional ++ [("type", type.toJson)]))
      :: componentsJson rest

def alternativesJson : List (Alternative TypeNode) → List Json
  | [] => []
  | ⟨name, type⟩ :: rest =>
    .object [("name", .string name), ("type", type.toJson)] :: alternativesJson rest

end

def Component.toJson (component : Component TypeNode) : Json :=
  .object (("name", .string component.name)
    :: (optionalMember component.optional ++ [("type", component.type.toJson)]))

def Alternative.toJson (alternative : Alternative TypeNode) : Json :=
  .object [("name", .string alternative.name), ("type", alternative.type.toJson)]

def TypeAssignment.toJson (assignment : TypeAssignment) : Json :=
  .object [("name", .string assignment.name), ("type", assignment.type.toJson)]

def TypeModule.toJson (module : TypeModule) : Json :=
  .object [("module_version", .string module.version), ("name", .string module.name),
    ("types", .array (module.types.map TypeAssignment.toJson))]

/-! Reading. In a settled object the members come in ascending order, so the
parts of a record are read in that order and missed in declaration order. -/

namespace Component

def ofMembers (node : Json → Except Fault TypeNode) (members : Members) :
    Except Fault (Component TypeNode) := do
  let name ← members.optional? "name" Json.readString
  let optional ← members.optional? "optional" Json.readBoolean
  let type ← members.optional? "type" node
  return ⟨← required "name" name, optional.getD false, ← required "type" type⟩

def ofItems (node : Json → Except Fault TypeNode) (items : List Json) :
    Except Fault (Component TypeNode) := do
  let expected := "struct Field with 3 elements"
  let name ← Json.readString (← itemAt items 0 expected)
  let optional ← items[1]?.mapM Json.readBoolean
  let type ← node (← itemAt items 2 expected)
  exactItems items 3
  return ⟨name, optional.getD false, type⟩

def ofJson (node : Json → Except Fault TypeNode) : Json → Except Fault (Component TypeNode)
  | .object members => ofMembers node members
  | .array items => ofItems node items
  | found => .error (.wrongType found "struct Field")

end Component

namespace Alternative

def ofMembers (node : Json → Except Fault TypeNode) (members : Members) :
    Except Fault (Alternative TypeNode) := do
  let name ← members.optional? "name" Json.readString
  let type ← members.optional? "type" node
  return ⟨← required "name" name, ← required "type" type⟩

def ofItems (node : Json → Except Fault TypeNode) (items : List Json) :
    Except Fault (Alternative TypeNode) := do
  let expected := "struct Alternative with 2 elements"
  let name ← Json.readString (← itemAt items 0 expected)
  let type ← node (← itemAt items 1 expected)
  exactItems items 2
  return ⟨name, type⟩

def ofJson (node : Json → Except Fault TypeNode) : Json → Except Fault (Alternative TypeNode)
  | .object members => ofMembers node members
  | .array items => ofItems node items
  | found => .error (.wrongType found "struct Alternative")

end Alternative

namespace TypeNode

def elementOfMembers (node : Json → Except Fault TypeNode) (members : Members) :
    Except Fault (Shape TypeNode) := do
  let element ← members.optional? "element" node
  let maxSize ← members.optional? "max_size" Json.readUInt64
  let minSize ← members.optional? "min_size" Json.readUInt64
  let minSize ← required "min_size" minSize
  let maxSize ← required "max_size" maxSize
  let element ← required "element" element
  return .sequenceOf ⟨minSize, maxSize⟩ element

/-- A part that is a list and must be there. -/
def listOfMembers {α : Type} (members : Members) (name : String)
    (reader : Json → Except Fault α) : Except Fault (List α) := do
  required name (← members.optional? name (Json.readList reader))

/-- The node of the given id and kind, its parts taken from the members. -/
def ofParts (node : Json → Except Fault TypeNode) (id : ConstraintId) (kind : String)
    (members : Members) : Except Fault TypeNode :=
  let shaped (shape : Except Fault (Shape TypeNode)) : Except Fault TypeNode :=
    shape.map (.shaped id)
  match kind with
  | "integer" => shaped ((IntegerBounds.ofMembers members).map .integer)
  | "real" => shaped ((RealBounds.ofMembers members).map .real)
  | "boolean" => .ok (.shaped id .boolean)
  | "null" => .ok (.shaped id .null)
  | "enumerated" => shaped ((listOfMembers members "items" EnumItem.ofJson).map .enumerated)
  | "octet_string" => shaped ((SizeBounds.ofMembers members).map .octetString)
  | "bit_string" => shaped ((SizeBounds.ofMembers members).map .bitString)
  | "ia5_string" => shaped ((SizeBounds.ofMembers members).map .ia5String)
  | "sequence_of" => shaped (elementOfMembers node members)
  | "sequence" =>
    shaped ((listOfMembers members "fields" (Component.ofJson node)).map .sequence)
  | "choice" =>
    shaped ((listOfMembers members "alternatives" (Alternative.ofJson node)).map .choice)
  | _ => do
    let target ← members.optional? "target" Json.readString
    return .reference id (← required "target" target)

def ofMembers (node : Json → Except Fault TypeNode) (members : Members) :
    Except Fault TypeNode := do
  let id ← members.optional? "id" Json.readUInt32
  let kind ← members.optional? "kind" (Json.readName kindNames)
  ofParts node (id.getD 0) (← required "kind" kind) members

def ofJsonWithin : Nat → Json → Except Fault TypeNode
  | levels + 1, .object members => ofMembers (ofJsonWithin levels) members
  | _, found => .error (.wrongType found "struct TypeNode")

def ofJson (json : Json) : Except Fault TypeNode := ofJsonWithin json.depth json

end TypeNode

namespace TypeAssignment

def ofMembers (members : Members) : Except Fault TypeAssignment := do
  let name ← members.optional? "name" Json.readString
  let type ← members.optional? "type" TypeNode.ofJson
  return ⟨← required "name" name, ← required "type" type⟩

def ofItems (items : List Json) : Except Fault TypeAssignment := do
  let expected := "struct TypeAssignment with 2 elements"
  let name ← Json.readString (← itemAt items 0 expected)
  let type ← TypeNode.ofJson (← itemAt items 1 expected)
  noFurtherItems items 2
  return ⟨name, type⟩

def ofJson : Json → Except Fault TypeAssignment
  | .object members => ofMembers members
  | .array items => ofItems items
  | found => .error (.wrongType found "struct TypeAssignment")

end TypeAssignment

namespace TypeModule

def ofMembers (members : Members) : Except Fault TypeModule := do
  let version ← members.optional? "module_version" Json.readString
  let name ← members.optional? "name" Json.readString
  let types ← members.optional? "types" (Json.readList TypeAssignment.ofJson)
  let version ← required "module_version" version
  let name ← required "name" name
  return ⟨version, name, ← required "types" types⟩

def ofItems (items : List Json) : Except Fault TypeModule := do
  let expected := "struct TypeModule with 3 elements"
  let version ← Json.readString (← itemAt items 0 expected)
  let name ← Json.readString (← itemAt items 1 expected)
  let types ← Json.readList TypeAssignment.ofJson (← itemAt items 2 expected)
  noFurtherItems items 3
  return ⟨version, name, types⟩

def ofJson : Json → Except Fault TypeModule
  | .object members => ofMembers members
  | .array items => ofItems items
  | found => .error (.wrongType found "struct TypeModule")

end TypeModule

end Asn1Constraints
