import Asn1Constraints.JsonSchema.Format

/-!
Schemas as a type of their own. A schema allows everything, allows nothing, is a
reference to a schema elsewhere, or is a list of keywords that each constrain a
document by themselves. Members of the written schema that only make sense
together have become one keyword here.
-/

namespace Asn1Constraints

/-- A side on which numbers are limited, and whether the limit itself is allowed. -/
inductive Limit where
  | minimum
  | maximum
  | exclusiveMinimum
  | exclusiveMaximum
deriving DecidableEq, Repr

/-- What is counted of a document. -/
inductive Measure where
  | items
  | characters
  | members
deriving DecidableEq, Repr

/-- Encodings and media types of texts that can be checked. -/
inductive Content where
  | base64
  | json
  | jsonInBase64
deriving DecidableEq, Repr

/-- What a schema refers to: a place, seen from a schema of some version. -/
structure SchemaTarget where
  dialect : Dialect
  place : Location
deriving DecidableEq, Repr

mutual

inductive Schema where
  | anything
  | nothing
  | reference (target : SchemaTarget)
  | keywords (list : List Keyword)

inductive Keyword where
  | allOf (branches : List Schema)
  | among (options : List Json)
  | anyOf (branches : List Schema)
  | atLeast (measure : Measure) (count : Nat)
  | atMost (measure : Measure) (count : Nat)
  | conditional (condition positive negative : Schema)
  | constant (value : Json)
  | contains (schema : Schema)
  | content (content : Content)
  /-- Schemas for the whole object, each asked for by a member. -/
  | dependencies (list : List (String × Schema))
  | distinct
  /-- Refuse every document. -/
  | excluded
  | format (format : Format)
  | items (schema : Schema)
  /-- The members, each by its name, by the patterns that its name matches, or
  else by the last schema; refused together when there is no such schema. -/
  | members (named : List (String × Schema)) (patterned : List (Search × Schema))
      (others : Option Schema)
  | multipleOf (divisor : Binary64)
  /-- Refuse what a schema allows; kept with its written form. -/
  | no (schema : Schema) (written : Json)
  /-- Refuse the first member of an object. -/
  | noMembers
  /-- Refuse an object that has members. -/
  | noNames
  | number (limit : Limit) (bound : Json)
  | oneOf (branches : List Schema)
  | pattern (search : Search) (source : String)
  | patternProperties (list : List (Search × Schema))
  | properties (list : List (String × Schema))
  | propertyNames (schema : Schema)
  | required (names : List String)
  /-- The items past so many; refused together when there is no schema for them. -/
  | rest (count : Nat) (schema : Option Schema)
  | tuple (list : List Schema)
  /-- Whether a real without fraction is an integer depends on the version. -/
  | type (types : List JsonType) (wholeReals : Bool)

end

mutual

/-- All that a schema refers to. -/
def Schema.targets : Schema → List SchemaTarget
  | .anything => []
  | .nothing => []
  | .reference target => [target]
  | .keywords list => targetsOfKeywords list

def targetsOfKeywords : List Keyword → List SchemaTarget
  | [] => []
  | keyword :: rest => keyword.targets ++ targetsOfKeywords rest

def Keyword.targets : Keyword → List SchemaTarget
  | .allOf branches | .anyOf branches | .oneOf branches | .tuple branches =>
    targetsOfSchemas branches
  | .conditional condition positive negative =>
    condition.targets ++ positive.targets ++ negative.targets
  | .contains schema | .items schema | .no schema _ | .propertyNames schema => schema.targets
  | .dependencies list | .properties list => targetsOfNamed list
  | .members named patterned others =>
    targetsOfNamed named ++ targetsOfPatterned patterned ++ targetsOfOptional others
  | .patternProperties list => targetsOfPatterned list
  | .rest _ schema => targetsOfOptional schema
  | _ => []

def targetsOfSchemas : List Schema → List SchemaTarget
  | [] => []
  | schema :: rest => schema.targets ++ targetsOfSchemas rest

def targetsOfNamed : List (String × Schema) → List SchemaTarget
  | [] => []
  | (_, schema) :: rest => schema.targets ++ targetsOfNamed rest

def targetsOfPatterned : List (Search × Schema) → List SchemaTarget
  | [] => []
  | (_, schema) :: rest => schema.targets ++ targetsOfPatterned rest

def targetsOfOptional : Option Schema → List SchemaTarget
  | none => []
  | some schema => schema.targets

end

end Asn1Constraints
