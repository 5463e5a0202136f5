import Asn1Constraints.JsonSchema.Documents
import Mathlib

/-!
The schema of model documents, rule by rule. Reading the published document
leaves these rules, behind six targets; a comparison that can be run says so,
and holds only of schemas that are the same.
-/

namespace Asn1Constraints

/-! Schemas compared. -/

/-- The same value of a kind that enumerations and limits are written in. -/
def Json.sameScalar : Json → Json → Bool
  | .string text, .string other => text = other
  | .real x, .real y => x = y
  | _, _ => false

mutual

/-- The same schema, as far as model documents use what schemas offer. -/
def Schema.agrees : Schema → Schema → Bool
  | .reference target, .reference other => target = other
  | .keywords list, .keywords others => keywordsAgree list others
  | _, _ => false

def keywordsAgree : List Keyword → List Keyword → Bool
  | [], [] => true
  | keyword :: rest, other :: others => keyword.agrees other && keywordsAgree rest others
  | _, _ => false

def Keyword.agrees : Keyword → Keyword → Bool
  | .among [option], .among [other] => option.sameScalar other
  | .items schema, .items other => schema.agrees other
  | .number limit bound, .number other value => limit = other && bound.sameScalar value
  | .oneOf branches, .oneOf others => schemasAgree branches others
  | .properties list, .properties others => namedAgree list others
  | .required names, .required others => names = others
  | .type types wholeReals, .type others whole => types = others && wholeReals = whole
  | _, _ => false

def schemasAgree : List Schema → List Schema → Bool
  | [], [] => true
  | schema :: rest, other :: others => schema.agrees other && schemasAgree rest others
  | _, _ => false

def namedAgree : List (String × Schema) → List (String × Schema) → Bool
  | [], [] => true
  | (name, schema) :: rest, (key, other) :: others =>
    name = key && schema.agrees other && namedAgree rest others
  | _, _ => false

end

theorem Json.eq_of_sameScalar {json other : Json} (same : json.sameScalar other = true) :
    json = other := by
  unfold sameScalar at same
  split at same
  · rw [of_decide_eq_true same]
  · rw [of_decide_eq_true same]
  · cases same

theorem eq_of_agree :
    (∀ schema other : Schema, schema.agrees other = true → schema = other) ∧
      (∀ list others : List Keyword, keywordsAgree list others = true → list = others) ∧
      (∀ keyword other : Keyword, keyword.agrees other = true → keyword = other) ∧
      (∀ list others : List (String × Schema), namedAgree list others = true → list = others) ∧
      ∀ list others : List Schema, schemasAgree list others = true → list = others := by
  apply Schema.agrees.mutual_induct
    (fun schema other => schema.agrees other = true → schema = other)
    (fun list others => keywordsAgree list others = true → list = others)
    (fun keyword other => keyword.agrees other = true → keyword = other)
    (fun list others => namedAgree list others = true → list = others)
    (fun list others => schemasAgree list others = true → list = others)
  -- The recursion of the comparison: one case for each pair that agrees, one for all that do not.
  all_goals intros
  all_goals simp_all [Schema.agrees, keywordsAgree, Keyword.agrees, namedAgree, schemasAgree]
  case case7 same => exact Json.eq_of_sameScalar same
  case case9 same => exact Json.eq_of_sameScalar same.2

/-- The same schema behind the same target. -/
def targetsAgree : List (SchemaTarget × SchemaReading Schema) →
    List (SchemaTarget × Schema) → Bool
  | [], [] => true
  | (target, .ok schema) :: rest, (other, found) :: others =>
    target = other && schema.agrees found && targetsAgree rest others
  | _, _ => false

theorem eq_of_targetsAgree (list : List (SchemaTarget × SchemaReading Schema))
    (others : List (SchemaTarget × Schema)) (same : targetsAgree list others = true) :
    list = others.map fun entry => (entry.1, .ok entry.2) := by
  fun_induction targetsAgree list others with
  | case1 => rfl
  | case2 target schema rest other found others ih =>
      simp only [Bool.and_eq_true, decide_eq_true_eq] at same
      rw [List.map_cons, ← ih same.2, same.1.1, eq_of_agree.1 schema found same.1.2]
  | case3 => cases same

/-! The rules. -/

namespace ModelSchema

def typed (type : JsonType) : Schema := .keywords [.type [type] true]

def natural : Schema :=
  .keywords [.number .minimum (.ofReal Binary64.zero), .type [.integer] true]

def named (name : String) : Schema :=
  .keywords [.among [.string name], .type [.string] true]

def listOf (item : Schema) : Schema := .keywords [.items item, .type [.array] true]

def target (name : String) : SchemaTarget :=
  ⟨.draft7, { Location.nameless with fragment := some ("/definitions/" ++ name) }⟩

def refer (name : String) : Schema := .reference (target name)

def record (required : List String) (properties : List (String × Schema)) : Schema :=
  .keywords [.properties properties, .required required, .type [.object] true]

/-- The members that a node of some kind must have, and those that are described. -/
structure KindRule where
  required : List String
  properties : List (String × Schema)

def kindRule (kind : String) : KindRule :=
  match kind with
  | "integer" =>
    ⟨["kind"], [("kind", named kind), ("max", typed .integer), ("min", typed .integer)]⟩
  | "real" => ⟨["kind"], [("kind", named kind), ("max", typed .number), ("min", typed .number)]⟩
  | "boolean" | "null" => ⟨["kind"], [("kind", named kind)]⟩
  | "enumerated" =>
    ⟨["items", "kind"], [("items", listOf (refer "EnumItem")), ("kind", named kind)]⟩
  | "octet_string" | "bit_string" | "ia5_string" =>
    ⟨["kind", "max_size", "min_size"],
      [("kind", named kind), ("max_size", natural), ("min_size", natural)]⟩
  | "sequence_of" =>
    ⟨["element", "kind", "max_size", "min_size"],
      [("element", refer "TypeNode"), ("kind", named kind), ("max_size", natural),
        ("min_size", natural)]⟩
  | "sequence" => ⟨["fields", "kind"], [("fields", listOf (refer "Field")), ("kind", named kind)]⟩
  | "choice" =>
    ⟨["alternatives", "kind"],
      [("alternatives", listOf (refer "Alternative")), ("kind", named kind)]⟩
  | _ => ⟨["kind", "target"], [("kind", named kind), ("target", typed .string)]⟩

def kindSchema (kind : String) : Schema :=
  record (kindRule kind).required (kindRule kind).properties

def node : Schema :=
  .keywords [.oneOf (kindNames.map kindSchema), .properties [("id", natural)],
    .type [.object] true]

/-- A name with a type: an assignment, or an alternative. -/
def namedType : Schema :=
  record ["name", "type"] [("name", typed .string), ("type", refer "TypeNode")]

def item : Schema :=
  record ["name", "value"] [("name", typed .string), ("value", typed .integer)]

def component : Schema :=
  record ["name", "type"]
    [("name", typed .string), ("optional", typed .boolean), ("type", refer "TypeNode")]

def module : Schema :=
  record ["module_version", "name", "types"]
    [("module_version", typed .string), ("name", typed .string),
      ("types", listOf (refer "TypeAssignment"))]

/-- What the references of the rules lead to. -/
def definitions : List (SchemaTarget × Schema) :=
  [(target "TypeAssignment", namedType), (target "TypeNode", node), (target "EnumItem", item),
    (target "Field", component), (target "Alternative", namedType)]

def document : SchemaDocument :=
  ⟨module, definitions.map fun entry => (entry.1, .ok entry.2)⟩

theorem isSchema_modelDocument :
    SchemaDocument.isSchema .draft7 SchemaDocument.modelDocument.settled = true := by
  decide +kernel

theorem linked_modelDocument :
    ∃ schema, SchemaDocument.linked? .draft7 SchemaDocument.modelDocument.settled = some schema ∧
      schema.root.agrees module = true ∧ targetsAgree schema.targets definitions = true := by
  have agrees : (SchemaDocument.linked? .draft7 SchemaDocument.modelDocument.settled).any
      (fun schema => schema.root.agrees module && targetsAgree schema.targets definitions) =
        true := by decide +kernel
  simpa [Option.any_eq_true] using agrees

/-- The published schema of model documents is read as these rules. -/
theorem modelSchema?_eq : SchemaDocument.modelSchema? = some document := by
  obtain ⟨schema, linked, root, targets⟩ := linked_modelDocument
  have dialect : Dialect.ofSchema SchemaDocument.modelDocument.settled = .draft7 := by
    decide +kernel
  rw [SchemaDocument.modelSchema?, SchemaDocument.ofJson?, SchemaDocument.ofSettled?]
  simp only [dialect, isSchema_modelDocument, if_true]
  rw [linked, document, ← eq_of_targetsAgree _ _ targets, ← eq_of_agree.1 _ _ root]

end ModelSchema

end Asn1Constraints
