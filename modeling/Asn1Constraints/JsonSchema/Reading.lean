import Asn1Constraints.JsonSchema.Fault
import Asn1Constraints.Json.Compare

/-!
Reading a schema from its document. The members that may hold schemas are read
first, and what is wrong with them is kept; then each member becomes at most one
keyword, for which it may look at its siblings. Only what a keyword uses has to be
right. A reference replaces everything beside it. References are turned into the
places they mean, by the place of the schema they stand in.
-/

namespace Asn1Constraints

abbrev SchemaReading := Except SchemaError

/-- A member of a member, read as a schema. -/
structure NamedPart where
  name : String
  json : Json
  schema : SchemaReading Schema

/-- A member of a schema, with what may be schemas inside it read. -/
inductive SchemaPart where
  | plain (json : Json)
  | single (json : Json) (schema : SchemaReading Schema)
  | several (list : List (SchemaReading Schema))
  | named (list : List NamedPart)

/-- Where the schemas of a member are. -/
inductive SchemaRole where
  | none
  | schema
  | branches
  | items
  | named
  | dependencies

namespace Dialect

/-- The members that hold schemas in every version. -/
def earlyRole : String → SchemaRole
  | "additionalItems" | "additionalProperties" | "not" => .schema
  | "allOf" | "anyOf" | "oneOf" => .branches
  | "items" => .items
  | "patternProperties" | "properties" => .named
  | "dependencies" => .dependencies
  | _ => .none

def laterRole : String → SchemaRole
  | "contains" | "propertyNames" => .schema
  | name => earlyRole name

def role : Dialect → String → SchemaRole
  | .draft4, name => earlyRole name
  | .draft6, name => laterRole name
  | .draft7, "if" | .draft7, "then" | .draft7, "else" => .schema
  | .draft7, name => laterRole name

end Dialect

namespace SchemaPart

/-- The schema that a member is in, seen from its keywords. -/
structure Context where
  dialect : Dialect
  /-- Where the schema is in the document it is read from. -/
  pointer : String
  siblings : List (String × SchemaPart)

/-- Wrong where one of some types is needed. -/
def wrongAt {α : Type} (pointer : String) (json : Json) (types : List JsonType) :
    SchemaReading α :=
  .error ⟨pointer, json, .wrongType types⟩

/-- No schema where one is needed. -/
def malformed {α : Type} : SchemaReading α := .error ⟨"", .null, .malformed⟩

namespace Context

def part? (context : Context) (name : String) : Option SchemaPart :=
  context.siblings.lookup name

def json? (context : Context) (name : String) : Option Json :=
  match context.part? name with
  | some (.plain json) | some (.single json _) => some json
  | _ => none

def schema? (context : Context) (name : String) : Option (SchemaReading Schema) :=
  match context.part? name with
  | some (.single _ schema) => some schema
  | _ => none

def isOn (context : Context) (name : String) : Bool :=
  match context.json? name with
  | some (.boolean value) => value
  | _ => false

def wrong {α : Type} (context : Context) (json : Json) (types : List JsonType) :
    SchemaReading α :=
  wrongAt context.pointer json types

end Context

/-! Members that hold schemas. -/

def namedOf (list : List NamedPart) : SchemaReading (List (String × Schema)) :=
  list.mapM fun part => do return (part.name, ← part.schema)

/-- A name that is no pattern is reported with the schema it names. -/
def patternedOf (context : Context) (list : List NamedPart) :
    SchemaReading (List (Search × Schema)) :=
  list.mapM fun part =>
    match Search.ofText? part.name with
    | some search => do return (search, ← part.schema)
    | none =>
      .error ⟨pointerTo context.pointer "patternProperties", part.json, .notOfFormat .regex⟩

def isObject : Json → Bool
  | .object _ => true
  | _ => false

/-- Whether the schema for other members takes charge of all the members. -/
def isClosed (context : Context) : Bool :=
  match context.json? "additionalProperties" with
  | some (.boolean value) => !value
  | some json => isObject json
  | none => false

def additionalItems (context : Context) (json : Json) (schema : SchemaReading Schema) :
    SchemaReading (Option Keyword) := do
  match context.part? "items", json with
  | some (.several list), .boolean false => return some (.rest list.length none)
  | some (.several list), .object _ => return some (.rest list.length (some (← schema)))
  | some (.single (.boolean false) _), _ => return some .excluded
  | some (.single (.boolean true) _), _ | some (.single (.object _) _), _ => return none
  | some (.single _ _), _ => malformed
  | _, _ => return none

/-- The members that have schemas by their names, where there is such a list. -/
def properties? (context : Context) : SchemaReading (Option (List (String × Schema))) := do
  match context.part? "properties" with
  | none => return none
  | some (.named list) => return some (← namedOf list)
  | some _ => malformed

def additionalWithPatterns (context : Context) (list : List NamedPart) (json : Json)
    (schema : SchemaReading Schema) : SchemaReading (Option Keyword) := do
  let patterned ← patternedOf context list
  match json with
  | .boolean true => return none
  | .boolean false =>
    return some (.members ((← properties? context).getD []) patterned none)
  | _ =>
    match context.part? "properties" with
    | some (.named list) =>
      let others ← schema
      return some (.members (← namedOf list) patterned (some others))
    | some _ => malformed
    | none => return some (.members [] patterned (some (← schema)))

def additionalProperties (context : Context) (json : Json) (schema : SchemaReading Schema) :
    SchemaReading (Option Keyword) := do
  match context.part? "patternProperties", json with
  | some (.named list), _ => additionalWithPatterns context list json schema
  | some _, _ => malformed
  | none, .boolean true => return none
  | none, .boolean false =>
    match ← properties? context with
    | some known => return some (.members known [] none)
    | none => return some .noMembers
  | none, _ =>
    let named? ← properties? context
    return some (.members (named?.getD []) [] (some (← schema)))

def conditional (context : Context) (condition : SchemaReading Schema) :
    SchemaReading (Option Keyword) := do
  match context.schema? "then", context.schema? "else" with
  | none, none => return none
  | positive?, negative? =>
    let condition ← condition
    let positive ← positive?.getD (.ok .anything)
    let negative ← negative?.getD (.ok .anything)
    return some (.conditional condition positive negative)

def propertyNames (json : Json) (schema : SchemaReading Schema) :
    SchemaReading (Option Keyword) := do
  match json with
  | .object _ => return some (.propertyNames (← schema))
  | .boolean false => return some .noNames
  | _ => return none

def itemsOf (json : Json) (schema : SchemaReading Schema) : SchemaReading (Option Keyword) := do
  match json with
  | .object _ | .boolean false => return some (.items (← schema))
  | _ => return none

/-- The keyword of a member that is a schema. -/
def singleKeyword (context : Context) (json : Json) (schema : SchemaReading Schema) :
    String → SchemaReading (Option Keyword)
  | "additionalItems" => additionalItems context json schema
  | "additionalProperties" => additionalProperties context json schema
  | "contains" => do return some (.contains (← schema))
  | "if" => conditional context schema
  | "items" => itemsOf json schema
  | "not" => do return some (.no (← schema) json)
  | "propertyNames" => propertyNames json schema
  | _ => .ok none

/-- The keyword of a member that is a list of schemas. -/
def severalKeyword (list : List (SchemaReading Schema)) :
    String → SchemaReading (Option Keyword)
  | "allOf" => do return some (.allOf (← list.mapM id))
  | "anyOf" => do return some (.anyOf (← list.mapM id))
  | "items" => do return some (.tuple (← list.mapM id))
  | "oneOf" => do return some (.oneOf (← list.mapM id))
  | _ => .ok none

/-- The keyword of a member whose members are schemas. -/
def namedKeyword (context : Context) (list : List NamedPart) :
    String → SchemaReading (Option Keyword)
  | "dependencies" => do return some (.dependencies (← namedOf list))
  | "patternProperties" =>
    if isClosed context then .ok none
    else do return some (.patternProperties (← patternedOf context list))
  | "properties" =>
    if isClosed context then .ok none else do return some (.properties (← namedOf list))
  | _ => .ok none

/-! Members that hold no schema. -/

def textAt (pointer : String) (json : Json) : SchemaReading String :=
  match json with
  | .string text => .ok text
  | _ => wrongAt pointer json [.string]

/-- Names of members that have to be there. -/
def namesAt (pointer : String) (items : List Json) : SchemaReading (List String) :=
  items.mapM (textAt (pointerTo pointer "required"))

/-- The name of a type that stands alone. -/
def typeOf (name : String) : SchemaReading (List JsonType) :=
  match JsonType.ofName? name with
  | some type => .ok [type]
  | none => malformed

/-- The name of a type among others. -/
def listedTypeAt (pointer : String) (json : Json) : SchemaReading JsonType := do
  match JsonType.ofName? (← textAt pointer json) with
  | some type => return type
  | none =>
    .error ⟨pointer, json, .notAmong (JsonType.all.map fun type => .string type.name)⟩

def typesOf (context : Context) (json : Json) : SchemaReading (List JsonType) :=
  match json with
  | .string name => typeOf name
  | .array [item] => do typeOf (← textAt context.pointer item)
  | .array items => do
    let types ← items.mapM (listedTypeAt (pointerTo context.pointer "type"))
    return JsonType.all.filter types.contains
  | _ => context.wrong json [.array, .string]

def numberOf (context : Context) (json : Json) : SchemaReading Binary64 :=
  match json.real? with
  | some value => .ok value
  | none => context.wrong json [.number]

/-- A limit. In the first version a flag beside it excludes the limit itself. -/
def limitOf (context : Context) (limit exclusive : Limit) (flag : String) (json : Json) :
    SchemaReading (Option Keyword) := do
  let _ ← numberOf context json
  if context.dialect == .draft4 && context.isOn flag then return some (.number exclusive json)
  else return some (.number limit json)

/-- The largest count that is kept. -/
def greatestCount : Nat := 0xffffffffffffffff

/-- A count. In the first version it is an integer and not below zero; later any
number without fraction will do, and those below zero count as zero. -/
def countOf (context : Context) (name : String) (json : Json) : SchemaReading Nat :=
  let pointer := pointerTo context.pointer name
  let isEarly := context.dialect == .draft4
  match json with
  | .integer n =>
    if isEarly && n.val < 0 then .error ⟨pointer, json, .beyond .minimum (.ofNat 0)⟩
    else .ok n.val.toNat
  | .real x =>
    if !isEarly && x.val.isWhole then
      .ok (if x.val.negative then 0
        else min (x.val.numerator / x.val.denominator) greatestCount)
    else wrongAt pointer json [.integer]
  | _ => wrongAt pointer json [.integer]

def atLeast (context : Context) (measure : Measure) (name : String) (json : Json) :
    SchemaReading (Option Keyword) := do
  return some (.atLeast measure (← countOf context name json))

def atMost (context : Context) (measure : Measure) (name : String) (json : Json) :
    SchemaReading (Option Keyword) := do
  return some (.atMost measure (← countOf context name json))

def encodingOf (context : Context) (json : Json) : SchemaReading (Option Keyword) := do
  if (context.json? "contentMediaType").isSome then return none
  else
    let encoding ← textAt context.pointer json
    return if encoding = "base64" then some (.content .base64) else none

def mediaOf (context : Context) (json : Json) : SchemaReading (Option Keyword) := do
  let media ← textAt context.pointer json
  if media != "application/json" then return none
  else
    match context.json? "contentEncoding" with
    | none => return some (.content .json)
    | some written =>
      let encoding ← textAt context.pointer written
      return if encoding = "base64" then some (.content .jsonInBase64) else none

def patternOf (context : Context) (json : Json) : SchemaReading (Option Keyword) := do
  let source ← textAt context.pointer json
  match Ecma.search? source with
  | some search => return some (.pattern search source)
  | none => .error ⟨context.pointer, json, .notOfFormat .regex⟩

def amongOf (context : Context) (json : Json) : SchemaReading (Option Keyword) :=
  match json with
  | .array options => .ok (some (.among options))
  | _ => context.wrong json [.array]

def requiredOf (context : Context) (json : Json) : SchemaReading (Option Keyword) :=
  match json with
  | .array items => do return some (.required (← namesAt context.pointer items))
  | _ => context.wrong json [.array]

def distinctOf (context : Context) (json : Json) : SchemaReading (Option Keyword) :=
  match json with
  | .boolean value => .ok (if value then some .distinct else none)
  | _ => context.wrong json [.boolean]

/-- The keywords of every version. Those that hold schemas are here where they do not. -/
def earlyKeyword (context : Context) (json : Json) : String → SchemaReading (Option Keyword)
  | "allOf" | "anyOf" | "oneOf" => context.wrong json [.array]
  | "dependencies" => context.wrong json [.object]
  | "enum" => amongOf context json
  | "format" => do
    let name ← textAt context.pointer json
    return (Format.ofName? context.dialect name).map .format
  | "maxItems" => atMost context .items "maxItems" json
  | "maxLength" => atMost context .characters "maxLength" json
  | "maxProperties" => atMost context .members "maxProperties" json
  | "maximum" => limitOf context .maximum .exclusiveMaximum "exclusiveMaximum" json
  | "minItems" => atLeast context .items "minItems" json
  | "minLength" => atLeast context .characters "minLength" json
  | "minProperties" => atLeast context .members "minProperties" json
  | "minimum" => limitOf context .minimum .exclusiveMinimum "exclusiveMinimum" json
  | "multipleOf" => do return some (.multipleOf (← numberOf context json))
  | "pattern" => patternOf context json
  | "patternProperties" => if isClosed context then .ok none else malformed
  | "properties" => if isClosed context then .ok none else context.wrong json [.object]
  | "required" => requiredOf context json
  | "type" => do return some (.type (← typesOf context json) (context.dialect != .draft4))
  | "uniqueItems" => distinctOf context json
  | _ => .ok none

def laterKeyword (context : Context) (json : Json) : String → SchemaReading (Option Keyword)
  | "const" => .ok (some (.constant json))
  | "contentEncoding" => encodingOf context json
  | "contentMediaType" => mediaOf context json
  | "exclusiveMaximum" =>
    limitOf context .exclusiveMaximum .exclusiveMaximum "exclusiveMaximum" json
  | "exclusiveMinimum" =>
    limitOf context .exclusiveMinimum .exclusiveMinimum "exclusiveMinimum" json
  | name => earlyKeyword context json name

/-- The keyword that a member stands for, if it is one. -/
def keyword (context : Context) (name : String) : SchemaPart → SchemaReading (Option Keyword)
  | .single json schema => singleKeyword context json schema name
  | .several list => severalKeyword list name
  | .named list => namedKeyword context list name
  | .plain json =>
    if context.dialect == .draft4 then earlyKeyword context json name
    else laterKeyword context json name

/-- The keywords in the order of the members. -/
def keywords (context : Context) : SchemaReading (List Keyword) := do
  let found ← context.siblings.mapM fun (name, part) => keyword context name part
  return found.filterMap id

end SchemaPart

namespace Schema

open SchemaPart (wrongAt)

def unreadable (fault : LocationFault) : SchemaError := ⟨"", .null, .unreadablePlace fault⟩

/-- The place of what is inside a schema, which may say where it is itself. -/
def enter (dialect : Dialect) (place : Location) (members : List (String × Json)) :
    SchemaReading Location :=
  match dialect.placeOf? members with
  | none => .ok place
  | some text => ((place.join text).mapError unreadable).map Location.asBase

def referenceOf (dialect : Dialect) (place : Location) (pointer : String) (json : Json) :
    SchemaReading Schema :=
  match json with
  | .string text =>
    ((place.join text).mapError unreadable).map fun target => .reference ⟨dialect, target⟩
  | _ => wrongAt pointer json [.string]

mutual

/-- Read the schema at a place, which is at a pointer in its document. -/
def ofJson (dialect : Dialect) (place : Location) (pointer : String) :
    Json → SchemaReading Schema
  | .boolean true => .ok .anything
  | .boolean false => .ok .nothing
  | .object members =>
    match enter dialect place members with
    | .error error => .error error
    | .ok inner =>
      match members.lookup "$ref" with
      | some json => referenceOf dialect inner pointer json
      | none =>
        (SchemaPart.keywords ⟨dialect, pointer, partsOf dialect inner pointer members⟩).map
          .keywords
  | other => wrongAt pointer other [.boolean, .object]

def partsOf (dialect : Dialect) (place : Location) (pointer : String) :
    List (String × Json) → List (String × SchemaPart)
  | [] => []
  | (name, json) :: rest =>
    let here := pointerTo pointer name
    let part : SchemaPart :=
      match dialect.role name, json with
      | .schema, json => .single json (ofJson dialect place here json)
      | .branches, .array items | .items, .array items =>
        .several (schemasOf dialect place here 0 items)
      | .items, json => .single json (ofJson dialect place here json)
      | .named, .object members => .named (namedOf dialect place here members)
      | .dependencies, .object members => .named (dependenciesOf dialect place here members)
      | _, json => .plain json
    (name, part) :: partsOf dialect place pointer rest

def schemasOf (dialect : Dialect) (place : Location) (pointer : String) :
    Nat → List Json → List (SchemaReading Schema)
  | _, [] => []
  | index, json :: rest =>
    ofJson dialect place (pointerAt pointer index) json
      :: schemasOf dialect place pointer (index + 1) rest

def namedOf (dialect : Dialect) (place : Location) (pointer : String) :
    List (String × Json) → List NamedPart
  | [] => []
  | (name, json) :: rest =>
    ⟨name, json, ofJson dialect place (pointerTo pointer name) json⟩
      :: namedOf dialect place pointer rest

/-- A list of names is short for a schema that requires them. -/
def dependenciesOf (dialect : Dialect) (place : Location) (pointer : String) :
    List (String × Json) → List NamedPart
  | [] => []
  | (name, json) :: rest =>
    let here := pointerTo pointer name
    let schema : SchemaReading Schema :=
      match json with
      | .array items =>
        (SchemaPart.namesAt here items).map fun names => .keywords [.required names]
      | json => ofJson dialect place here json
    ⟨name, json, schema⟩ :: dependenciesOf dialect place pointer rest

end

end Schema

end Asn1Constraints
