import Asn1Constraints.JsonSchema.Linked
import Asn1Constraints.TypeModel.Document

/-!
The schema documents of models and plans, members in the order in which they
are published.
-/

namespace Asn1Constraints.SchemaDocument

def draft : String × Json := ("$schema", .string "http://json-schema.org/draft-07/schema#")

def typed (name : String) : Json := .object [("type", .string name)]

def listOf (item : Json) : Json := .object [("type", .string "array"), ("items", item)]

def refer (name : String) : Json := .object [("$ref", .string ("#/definitions/" ++ name))]

def among (names : List String) : Json :=
  .object [("type", .string "string"), ("enum", .ofNames names)]

def integer : Json := .object [("type", .string "integer"), ("format", .string "int64")]

def double : Json := .object [("type", .string "number"), ("format", .string "double")]

def natural (format : String) : Json :=
  .object [("type", .string "integer"), ("format", .string format),
    ("minimum", .ofReal Binary64.zero)]

def size : Json := natural "uint64"

/-- The same schema with one more member in front. -/
def before (name : String) (value : Json) : Json → Json
  | .object members => .object ((name, value) :: members)
  | other => other

def described (words : String) (schema : Json) : Json :=
  before "description" (.string words) schema

def record (required : List String) (properties : Members) : Json :=
  .object [("type", .string "object"), ("required", .array (required.map .string)),
    ("properties", .object properties)]

/-! Models. -/

def kind (name : String) : String × Json := ("kind", among [name])

def sizedKind (name : String) : Json :=
  record ["kind", "max_size", "min_size"] [kind name, ("max_size", size), ("min_size", size)]

def kindSchemas : List Json :=
  [described "Signed INTEGER with an inclusive value range."
      (record ["kind"]
        [kind "integer", ("max", before "default" (.ofInt64 Int64.maxValue) integer),
          ("min", before "default" (.ofInt64 Int64.minValue) integer)]),
    described "REAL with an inclusive value range."
      (record ["kind"]
        [kind "real", ("max", before "default" (.ofReal Binary64.greatest) double),
          ("min", before "default" (.ofReal Binary64.least) double)]),
    record ["kind"] [kind "boolean"],
    record ["kind"] [kind "null"],
    described "ENUMERATED item list in declaration order."
      (record ["items", "kind"] [("items", listOf (refer "EnumItem")), kind "enumerated"]),
    described "OCTET STRING; size counted in bytes." (sizedKind "octet_string"),
    described "BIT STRING; size counted in bits." (sizedKind "bit_string"),
    described "IA5String; size counted in characters." (sizedKind "ia5_string"),
    described "SEQUENCE OF with size bounds and an element type."
      (record ["element", "kind", "max_size", "min_size"]
        [("element", refer "TypeNode"), kind "sequence_of", ("max_size", size),
          ("min_size", size)]),
    described "SEQUENCE: ordered fields. Declaration order is wire order."
      (record ["fields", "kind"] [("fields", listOf (refer "Field")), kind "sequence"]),
    described "CHOICE: exactly one alternative is present."
      (record ["alternatives", "kind"]
        [("alternatives", listOf (refer "Alternative")), kind "choice"]),
    described "Named reference to another type assignment in the same module."
      (record ["kind", "target"] [kind "reference", ("target", typed "string")])]

def nodeSchema : Json :=
  .object [("description", .string "One schema type or field."), ("type", .string "object"),
    ("oneOf", .array kindSchemas),
    ("properties", .object
      [("id", described "Id of this node's own check; `0` when it has none."
        (natural "uint32"))])]

def modelDefinitions : Members :=
  [("Alternative", described "Named CHOICE alternative."
      (record ["name", "type"] [("name", typed "string"), ("type", refer "TypeNode")])),
    ("EnumItem", described "Named item of an ENUMERATED type."
      (record ["name", "value"] [("name", typed "string"), ("value", integer)])),
    ("Field", described "Named SEQUENCE component."
      (record ["name", "type"]
        [("name", typed "string"),
          ("optional", described "OPTIONAL components may be absent from an instance."
            (typed "boolean")),
          ("type", refer "TypeNode")])),
    ("TypeAssignment", described "A named type definition (`Name ::= Type`)."
      (record ["name", "type"] [("name", typed "string"), ("type", refer "TypeNode")])),
    ("TypeNode", nodeSchema)]

/-- The schema of model documents. -/
def modelDocument : Json :=
  .object [draft, ("title", .string "TypeModule"),
    ("description", .string "Compilation unit produced by the schema front-end."),
    ("type", .string "object"),
    ("required", .array [.string "module_version", .string "name", .string "types"]),
    ("properties", .object
      [("module_version", described "Contract version for this model format."
          (typed "string")),
        ("name", described "ASN.1 module name." (typed "string")),
        ("types", described "Type assignments in declaration order."
          (listOf (refer "TypeAssignment")))]),
    ("definitions", .object modelDefinitions)]

/-- The schema that model documents are checked against. -/
def modelSchema? : Option SchemaDocument := ofJson? modelDocument

/-! Plans. -/

def rule (name : String) : String × Json := ("rule", among [name])

def names : Json := listOf (typed "string")

def ruleSchemas : List Json :=
  [record ["max", "min", "rule"] [("max", integer), ("min", integer), rule "integer_range"],
    record ["max", "min", "rule"] [("max", double), ("min", double), rule "real_range"],
    record ["max_size", "min_size", "rule", "unit"]
      [("max_size", size), ("min_size", size), rule "size", ("unit", refer "SizeUnit")],
    described "IA5 size range plus the 7-bit character set."
      (record ["max_size", "min_size", "rule"]
        [("max_size", size), ("min_size", size), rule "character_string"]),
    record ["rule", "values"] [rule "enumerated_values", ("values", listOf integer)],
    record ["rule"] [rule "is_boolean"],
    record ["rule"] [rule "is_null"],
    described "Every mandatory component present and no undeclared component."
      (record ["declared", "mandatory", "rule"]
        [("declared", names), ("mandatory", names), rule "mandatory_fields"]),
    described "Exactly one declared alternative selected."
      (record ["alternatives", "rule"] [("alternatives", names), rule "single_alternative"])]

def checkSchema : Json :=
  .object [("description", .string "Atomic check tagged with its constraint id."),
    ("type", .string "object"), ("oneOf", .array ruleSchemas),
    ("required", .array [.string "id", .string "path"]),
    ("properties", .object [("id", natural "uint32"), ("path", refer "FieldPath")])]

/-- The schema of plan documents. -/
def planDocument : Json :=
  .object [draft, ("title", .string "ValidationPlan"),
    ("description", .string ("Ordered checks for one type: depth-first, declaration order, "
      ++ "components before the composite that contains them.")),
    ("type", .string "object"),
    ("required", .array [.string "checks", .string "root_id", .string "type_name"]),
    ("properties", .object
      [("checks", listOf (refer "Check")),
        ("root_id", described "Id of the root node's own check (0 when it has none)."
          (natural "uint32")),
        ("type_name", described "Type assignment the plan was compiled from."
          (typed "string"))]),
    ("definitions", .object
      [("Check", checkSchema), ("FieldPath", typed "string"),
        ("SizeUnit", described "What a size is counted in."
          (among ["bytes", "bits", "elements"]))])]

end Asn1Constraints.SchemaDocument
