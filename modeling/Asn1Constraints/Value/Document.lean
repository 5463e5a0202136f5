import Asn1Constraints.TypeModel.Basic
import Asn1Constraints.Value.Text

/-!
Instances as JSON documents, guided by the type. Enumerated values go by item
name, octets by hexadecimal digits, bits by `0` and `1`. Reading settles the
order of components and leaves bounds and missing components to validation.
Writing shows declared components only.
-/

namespace Asn1Constraints

def invalid {α : Type} (place : String) (cause : Misfit) : Except Error α :=
  .error (.invalidValue place cause)

namespace Value

/-! Reading. -/

def bitOf (place : String) (c : Char) : Except Error Bool :=
  if c = '0' then .ok false
  else if c = '1' then .ok true
  else invalid place (.bit c)

def itemNamed (place : String) (items : List EnumItem) (name : String) : Except Error Value :=
  match EnumItem.byName? items name with
  | some item => .ok (.enumerated item.value)
  | none => invalid place (.unknownItem name)

def octetsOf (place text : String) : Except Error Value :=
  match Hex.decode text with
  | .ok bytes => .ok (.octetString bytes)
  | .error error => invalid place (.hex error)

/-- A document that has the form asked for, or a misfit that names the form. -/
def expecting {α : Type} (place expected : String) (json : Json) :
    Option α → Except Error α
  | some part => .ok part
  | none => invalid place (.document expected json)

/-- How the part at a place is read against its node. -/
abbrev PartReader := String → TypeNode → Json → Except Error Value

def readElements (part : PartReader) (place : String) (element : TypeNode) :
    Nat → List Json → Except Error (List Value)
  | _, [] => .ok []
  | index, item :: rest => do
    let value ← part s!"{place}[{index}]" element item
    let values ← readElements part place element (index + 1) rest
    return value :: values

def readComponents (part : PartReader) (place : String) (members : Members) :
    List (Component TypeNode) → Except Error (List (String × Value))
  | [] => .ok []
  | component :: rest =>
    match members.lookup component.name with
    | none => readComponents part place members rest
    | some json => do
      let value ← part s!"{place}.{component.name}" component.type json
      let values ← readComponents part place members rest
      return (component.name, value) :: values

def undeclared? (components : List (Component TypeNode)) (members : Members) :
    Option (String × Json) :=
  members.find? fun member => (Component.byName? components member.1).isNone

def readAlternative (part : PartReader) (place : String)
    (alternatives : List (Alternative TypeNode)) (name : String) (json : Json) :
    Except Error Value :=
  match Alternative.byName? alternatives name with
  | none => invalid place (.unknownAlternative name)
  | some alternative => do
    let value ← part s!"{place}.{name}" alternative.type json
    return .choice name value

def readShape (part : PartReader) (place : String) (shape : Shape TypeNode) (json : Json) :
    Except Error Value :=
  match shape with
  | .integer _ => (expecting place "an integer" json json.int64?).map .integer
  | .real _ => (expecting place "a number" json json.real?).map .real
  | .boolean => (expecting place "a boolean" json json.boolean?).map .boolean
  | .null =>
    match json with
    | .null => .ok .null
    | found => invalid place (.document "null" found)
  | .enumerated items => do
    itemNamed place items (← expecting place "an enumerated item name" json json.string?)
  | .octetString _ => do
    octetsOf place (← expecting place "a hex string" json json.string?)
  | .bitString _ => do
    let text ← expecting place "a string of '0'/'1'" json json.string?
    return .bitString (← text.toList.mapM (bitOf place))
  | .ia5String _ => (expecting place "a string" json json.string?).map .ia5String
  | .sequenceOf _ element => do
    let items ← expecting place "an array" json json.array?
    return .sequenceOf (← readElements part place element 0 items)
  | .sequence components => do
    let members ← expecting place "an object" json json.object?
    match undeclared? components members with
    | some (name, _) => invalid place (.unknownComponent name)
    | none => return .sequence (← readComponents part place members components)
  | .choice alternatives => do
    match ← expecting place "a single-key object" json json.object? with
    | [(name, content)] => readAlternative part place alternatives name content
    | _ => invalid place (.document "a single-key object" json)

/-- Reading of documents with fewer than the given number of levels. -/
def ofJsonWithin (module : TypeModule) : Nat → PartReader
  | 0, place, _, json => invalid place (.document "a simple value" json)
  | levels + 1, place, node, json =>
    match module.resolve node with
    | .error error => .error error
    | .ok resolved => readShape (ofJsonWithin module levels) place resolved.shape json

def ofJson (module : TypeModule) (node : TypeNode) (json : Json) : Except Error Value :=
  ofJsonWithin module (json.depth + 1) "$" node json

/-! Writing. -/

/-- How the part at a place is written against its node. -/
abbrev PartWriter := String → TypeNode → Value → Except Error Json

def writeElements (part : PartWriter) (place : String) (element : TypeNode) :
    Nat → List Value → Except Error (List Json)
  | _, [] => .ok []
  | index, item :: rest => do
    let json ← part s!"{place}[{index}]" element item
    let items ← writeElements part place element (index + 1) rest
    return json :: items

def writeComponents (part : PartWriter) (place : String) (values : List (String × Value)) :
    List (Component TypeNode) → Except Error Members
  | [] => .ok []
  | component :: rest =>
    match values.lookup component.name with
    | none => writeComponents part place values rest
    | some value => do
      let json ← part s!"{place}.{component.name}" component.type value
      let members ← writeComponents part place values rest
      return (component.name, json) :: members

def writeAlternative (part : PartWriter) (place : String)
    (alternatives : List (Alternative TypeNode)) (name : String) (value : Value) :
    Except Error Json :=
  match Alternative.byName? alternatives name with
  | none => invalid place (.unknownAlternative name)
  | some alternative => do
    let json ← part s!"{place}.{name}" alternative.type value
    return .object [(name, json)]

def writeShape (part : PartWriter) (place : String) (shape : Shape TypeNode) (value : Value) :
    Except Error Json :=
  match shape, value with
  | .integer _, .integer n => .ok (.ofInt64 n)
  | .real _, .real x =>
    match Json.ofReal? x with
    | some json => .ok json
    | none => invalid place (.unrepresentable x)
  | .boolean, .boolean b => .ok (.boolean b)
  | .null, .null => .ok .null
  | .enumerated items, .enumerated n =>
    match EnumItem.byValue? items n with
    | some item => .ok (.string item.name)
    | none => invalid place (.undeclaredItem n)
  | .octetString _, .octetString bytes => .ok (.string (Hex.encode bytes))
  | .bitString _, .bitString bits =>
    .ok (.string (String.ofList (bits.map fun bit => if bit then '1' else '0')))
  | .ia5String _, .ia5String text => .ok (.string text)
  | .sequenceOf _ element, .sequenceOf items =>
    (writeElements part place element 0 items).map .array
  | .sequence components, .sequence values =>
    (writeComponents part place values components).map fun members =>
      .object (Json.settleMembers members)
  | .choice alternatives, .choice name content =>
    writeAlternative part place alternatives name content
  | shape, value => invalid place (.kind shape.label value.kindLabel)

def toJsonWithin (module : TypeModule) : Nat → PartWriter
  | 0, place, node, value => invalid place (.kind node.label value.kindLabel)
  | levels + 1, place, node, value =>
    match module.resolve node with
    | .error error => .error error
    | .ok resolved => writeShape (toJsonWithin module levels) place resolved.shape value

def toJson (module : TypeModule) (node : TypeNode) (value : Value) : Except Error Json :=
  toJsonWithin module (value.depth + 1) "$" node value

end Value

end Asn1Constraints
