import Asn1Constraints.Json.Basic
import Asn1Constraints.Text.Split

/-!
The versions of JSON Schema. A schema document names its version; one that
names none, or an unknown one, is read as the newest.
-/

namespace Asn1Constraints

inductive Dialect where
  | draft4
  | draft6
  | draft7
deriving DecidableEq, Repr

namespace Dialect

/-- Where the schema of all schemas of this version is published. -/
def metaSchemaPlace : Dialect → String
  | .draft4 => "http://json-schema.org/draft-04/schema"
  | .draft6 => "http://json-schema.org/draft-06/schema"
  | .draft7 => "http://json-schema.org/draft-07/schema"

def all : List Dialect := [.draft4, .draft6, .draft7]

/-- The version that a schema document says it is written in. -/
def named? (schema : Json) : Option Dialect := do
  let members ← schema.object?
  let name ← (members.lookup "$schema").bind Json.string?
  let place := String.ofList (Text.trimEnd (· == '#') name.toList)
  all.find? fun dialect => dialect.metaSchemaPlace == place

def ofSchema (schema : Json) : Dialect := (named? schema).getD .draft7

/-- The member that says where a schema is published. -/
def placeMember : Dialect → String
  | .draft4 => "id"
  | .draft6 | .draft7 => "$id"

/-- A reference has no place of its own. -/
def placeOf? (dialect : Dialect) (members : List (String × Json)) : Option String :=
  if (members.lookup "$ref").isSome then none
  else (members.lookup dialect.placeMember).bind Json.string?

end Dialect

/-- Type names, in alphabetical order. -/
inductive JsonType where
  | array
  | boolean
  | integer
  | null
  | number
  | object
  | string
deriving DecidableEq, Repr

namespace JsonType

def name : JsonType → String
  | .array => "array"
  | .boolean => "boolean"
  | .integer => "integer"
  | .null => "null"
  | .number => "number"
  | .object => "object"
  | .string => "string"

def all : List JsonType := [.array, .boolean, .integer, .null, .number, .object, .string]

def ofName? (name : String) : Option JsonType := all.find? fun type => type.name == name

end JsonType

end Asn1Constraints
