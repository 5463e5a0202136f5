import Asn1Constraints.JsonSchema.Check
import Asn1Constraints.JsonSchema.Library

/-!
Schema documents with all the schemas that their references lead to. A
reference that leads nowhere is no fault of the schema document; it is an error
of each document that is checked against it. A schema document counts only if it
is valid under the schema of schemas of its version.
-/

namespace Asn1Constraints

/-- A schema, and what is found behind each reference that can be reached from it. -/
structure SchemaDocument where
  root : Schema
  targets : List (SchemaTarget × SchemaReading Schema)

namespace SchemaDocument

def targetsOf : SchemaReading Schema → List SchemaTarget
  | .ok schema => schema.targets
  | .error _ => []

/-- Read each target that is still open, once. -/
def link (library : SchemaLibrary) :
    Nat → List (SchemaTarget × SchemaReading Schema) → List SchemaTarget →
      List (SchemaTarget × SchemaReading Schema)
  | 0, known, _ => known
  | _, known, [] => known
  | budget + 1, known, target :: rest =>
    if (known.lookup target).isSome then link library budget known rest
    else
      let schema := library.read target
      link library budget (known ++ [(target, schema)]) (targetsOf schema ++ rest)

mutual

/-- How many values a document is made of. -/
def valueCount : Json → Nat
  | .array items => itemValueCount items + 1
  | .object members => memberValueCount members + 1
  | _ => 1

def itemValueCount : List Json → Nat
  | [] => 0
  | item :: rest => valueCount item + itemValueCount rest

def memberValueCount : List (String × Json) → Nat
  | [] => 0
  | (_, value) :: rest => valueCount value + memberValueCount rest

end

/-- More references than can be followed. A document is read at most once for
each fragment that some reference has and each version, and each reading finds at
most as many references as there are values. -/
def linkBudget (library : SchemaLibrary) : Nat :=
  let values := library.documents.foldl (fun count entry => count + valueCount entry.2) 1
  Nat.pow values 5

/-- A settled schema document, whether or not it is valid as one. -/
def linked? (dialect : Dialect) (json : Json) : Option SchemaDocument := do
  let place ← SchemaLibrary.rootPlace? dialect json
  let library ← SchemaLibrary.of? dialect place json
  let root ← (Schema.ofJson dialect place.asBase "" json).toOption
  return ⟨root, link library (linkBudget library) [] root.targets⟩

/-- Follow references at most as often as the budget says. -/
def follow (schema : SchemaDocument) : Nat → Follow
  | 0, _, _, _ => []
  | budget + 1, target, pointer, json =>
    match schema.targets.lookup target with
    | some (.ok found) => found.check (schema.follow budget) pointer json
    | some (.error error) => [error]
    | none => []

/-- The errors of a document in order. Between two steps down into the document
a chain of references passes each target at most once. -/
def check (schema : SchemaDocument) (json : Json) : List SchemaError :=
  let budget := (json.depth + 1) * (schema.targets.length + 1)
  schema.root.check (schema.follow budget) "" json

def draft4? : Option SchemaDocument := linked? .draft4 (MetaSchema.document .draft4)
def draft6? : Option SchemaDocument := linked? .draft6 (MetaSchema.document .draft6)
def draft7? : Option SchemaDocument := linked? .draft7 (MetaSchema.document .draft7)

/-- The schema of the schemas of a version. -/
def metaSchema? : Dialect → Option SchemaDocument
  | .draft4 => draft4?
  | .draft6 => draft6?
  | .draft7 => draft7?

/-- Whether a settled document is a schema of the version. -/
def isSchema (dialect : Dialect) (json : Json) : Bool :=
  (metaSchema? dialect).any fun schema => (schema.check json).isEmpty

def ofSettled? (json : Json) : Option SchemaDocument :=
  let dialect := Dialect.ofSchema json
  if isSchema dialect json then linked? dialect json else none

def ofJson? (json : Json) : Option SchemaDocument := ofSettled? json.settled

end SchemaDocument

end Asn1Constraints
