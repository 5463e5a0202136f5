import Asn1Constraints.JsonSchema.Dialect

/-!
The schemas of schemas, as published for each version. A schema document has to
be valid under the one of its version, and may refer to any of them.
-/

namespace Asn1Constraints.MetaSchema

def text (value : String) : Json := .string value
def number (n : Nat) : Json := .ofNat n
def empty : Json := .object []
def refer (fragment : String) : Json := .object [("$ref", text ("#" ++ fragment))]
def itself : Json := refer ""
def defined (name : String) : Json := refer ("/definitions/" ++ name)
def typed (name : String) : Json := .object [("type", text name)]
def formatted (format : String) : Json :=
  .object [("type", text "string"), ("format", text format)]
def anyOf (branches : List Json) : Json := .object [("anyOf", .array branches)]
def either (branches : List Json) : Json :=
  .object [("anyOf", .array branches), ("default", empty)]
def flag : Json := .object [("type", text "boolean"), ("default", .boolean false)]
def schemas : Json := defined "schemaArray"

def listOf (item : Json) (more : List (String × Json)) : Json :=
  .object ([("type", text "array"), ("items", item)] ++ more)

def atLeastOne : String × Json := ("minItems", number 1)
def unique : String × Json := ("uniqueItems", .boolean true)

/-- An object all of whose members are described alike. -/
def mapOf (value : Json) (more : List (String × Json)) : Json :=
  .object ([("type", text "object"), ("additionalProperties", value)] ++ more)

def mapOfSchemas : Json := mapOf itself [("default", empty)]

def simpleTypes : Json := .object [("enum", .array (JsonType.all.map fun type => text type.name))]

def definitions (count : String) (names : Json) : Json :=
  .object [("schemaArray", listOf itself [atLeastOne]),
    (count, .object [("type", text "integer"), ("minimum", number 0)]),
    (count ++ "Default0", .object
      [("allOf", .array [defined count, .object [("default", number 0)]])]),
    ("simpleTypes", simpleTypes), ("stringArray", names)]

def namesOf (more : List (String × Json)) : Json := listOf (typed "string") more

/-- What the versions agree on. -/
def sharedProperties (count : String) (any : Json) : List (String × Json) :=
  [("allOf", schemas), ("anyOf", schemas), ("default", any), ("definitions", mapOfSchemas),
    ("dependencies", mapOf (anyOf [itself, defined "stringArray"]) []),
    ("description", typed "string"), ("format", typed "string"),
    ("items", .object [("anyOf", .array [itself, schemas]), ("default", any)]),
    ("maxItems", defined count), ("maxLength", defined count),
    ("maxProperties", defined count), ("maximum", typed "number"),
    ("minItems", defined (count ++ "Default0")), ("minLength", defined (count ++ "Default0")),
    ("minProperties", defined (count ++ "Default0")), ("minimum", typed "number"),
    ("not", itself), ("oneOf", schemas), ("pattern", formatted "regex"),
    ("properties", mapOfSchemas), ("required", defined "stringArray"),
    ("title", typed "string"),
    ("type", anyOf [defined "simpleTypes",
      listOf (defined "simpleTypes") [atLeastOne, unique]]),
    ("uniqueItems", flag)]

def booleanOrSchema : Json := either [typed "boolean", itself]

def draft4 : Json :=
  .object [("id", text "http://json-schema.org/draft-04/schema#"),
    ("$schema", text "http://json-schema.org/draft-04/schema#"),
    ("description", text "Core schema meta-schema"),
    ("definitions", definitions "positiveInteger" (namesOf [atLeastOne, unique])),
    ("type", text "object"),
    ("properties", .object (sharedProperties "positiveInteger" empty ++
      [("id", typed "string"), ("$schema", typed "string"),
        ("additionalItems", booleanOrSchema), ("additionalProperties", booleanOrSchema),
        ("enum", typed "array"), ("exclusiveMaximum", typed "boolean"),
        ("exclusiveMinimum", typed "boolean"),
        ("multipleOf", .object [("type", text "number"), ("minimum", number 0),
          ("exclusiveMinimum", .boolean true)]),
        ("patternProperties", mapOfSchemas)])),
    ("dependencies", .object [("exclusiveMaximum", .array [text "maximum"]),
      ("exclusiveMinimum", .array [text "minimum"])]),
    ("default", empty)]

def laterNames : Json := namesOf [unique, ("default", .array [])]

/-- What the later versions agree on. -/
def laterProperties (any : Json) : List (String × Json) :=
  sharedProperties "nonNegativeInteger" any ++
    [("$id", formatted "uri-reference"), ("$ref", formatted "uri-reference"),
      ("$schema", formatted "uri"), ("additionalItems", itself),
      ("additionalProperties", itself), ("const", any), ("contains", itself),
      ("examples", .object [("type", text "array"), ("items", any)]),
      ("exclusiveMaximum", typed "number"), ("exclusiveMinimum", typed "number"),
      ("multipleOf", .object [("type", text "number"), ("exclusiveMinimum", number 0)]),
      ("propertyNames", itself)]

def laterDocument (place : String) (any : Json) (properties : List (String × Json)) : Json :=
  .object [("$schema", text place), ("$id", text place),
    ("title", text "Core schema meta-schema"),
    ("definitions", definitions "nonNegativeInteger" laterNames),
    ("type", .array [text "object", text "boolean"]),
    ("properties", .object (laterProperties any ++ properties)), ("default", any)]

/-- Schemas by the patterns that names have to match. -/
def mapOfPatterns : Json :=
  mapOf itself [("propertyNames", .object [("format", text "regex")]), ("default", empty)]

def draft6 : Json :=
  laterDocument "http://json-schema.org/draft-06/schema#" empty
    [("enum", typed "array"), ("patternProperties", mapOfPatterns)]

def draft7 : Json :=
  let any : Json := .boolean true
  laterDocument "http://json-schema.org/draft-07/schema#" any
    [("$comment", typed "string"), ("contentEncoding", typed "string"),
      ("contentMediaType", typed "string"), ("else", itself),
      ("enum", .object [("type", text "array"), ("items", any)]), ("if", itself),
      ("patternProperties", mapOfPatterns), ("readOnly", flag), ("then", itself)]

def document : Dialect → Json
  | .draft4 => draft4.settled
  | .draft6 => draft6.settled
  | .draft7 => draft7.settled

end Asn1Constraints.MetaSchema
