import Asn1Constraints.Json.Multiple
import Asn1Constraints.Json.Scanner
import Asn1Constraints.JsonSchema.Fault
import Asn1Constraints.Text.Base64

/-!
Checking a document against a schema. Each keyword adds its own errors, in the
order of the keywords. A choice between branches is reported as one error for
the whole document at that place, never as the errors inside the branches.
-/

namespace Asn1Constraints

/-! Facts about documents that keywords ask for. -/

namespace Json

def hasType (wholeReals : Bool) (json : Json) (type : JsonType) : Bool :=
  match json, type with
  | .null, .null => true
  | .boolean _, .boolean => true
  | .integer _, .integer => true
  | .integer _, .number => true
  | .real x, .integer => wholeReals && x.val.isWhole
  | .real _, .number => true
  | .string _, .string => true
  | .array _, .array => true
  | .object _, .object => true
  | _, _ => false

/-- On the wrong side of a limit, when both are numbers. -/
def isBeyond (json bound : Json) : Limit → Bool
  | .minimum => json.isBelow bound
  | .maximum => bound.isBelow json
  | .exclusiveMinimum => json.isBelow bound || json.sameNumber bound
  | .exclusiveMaximum => bound.isBelow json || json.sameNumber bound

def count? (json : Json) : Measure → Option Nat
  | .items => json.array?.map List.length
  | .characters => json.string?.map String.length
  | .members => json.object?.map List.length

/-- Two numbers only have to be near each other to be the same constant. -/
def isConstant (json value : Json) : Bool :=
  match json.real?, value.real? with
  | some x, some y => y.isNear x
  | _, _ => value.equal json

def isMultipleOf (json : Json) (divisor : Binary64) : Bool :=
  match json.real? with
  | some x => x.isMultipleOf divisor
  | none => true

end Json

namespace Content

def isJson (text : String) : Bool :=
  match Json.parse text with
  | .ok _ => true
  | .error _ => false

/-- What is wrong with a text that should hold encoded content. -/
def fault? (content : Content) (text : String) : Option SchemaFault :=
  match content, Base64.decode? text.toList with
  | .json, _ => if isJson text then none else some .notJson
  | _, none => some .notEncoded
  | .base64, some _ => none
  | .jsonInBase64, some bytes =>
    match String.fromUTF8? ⟨bytes.toArray⟩ with
    | some decoded => if isJson decoded then none else some .notJson
    | none => (Utf8.fault? bytes).map .notText

end Content

def checkIndexed (check : String → Json → List SchemaError) (pointer : String) :
    Nat → List Json → List SchemaError
  | _, [] => []
  | index, item :: rest =>
    check (pointerAt pointer index) item ++ checkIndexed check pointer (index + 1) rest

/-- One error about the document at a pointer, unless all is well. -/
def errorUnless (fine : Bool) (pointer : String) (json : Json) (fault : SchemaFault) :
    List SchemaError :=
  if fine then [] else [⟨pointer, json, fault⟩]

/-- One error about the document at a pointer, if there is a fault. -/
def errorOf (pointer : String) (json : Json) : Option SchemaFault → List SchemaError
  | some fault => [⟨pointer, json, fault⟩]
  | none => []

/-- What is wrong with a text that should match a pattern. -/
def searchFault? (search : Search) (source text : String) : Option SchemaFault :=
  match search.run text with
  | .ok true => none
  | .ok false => some (.notMatching source)
  | .error reason => some (.abandoned reason)

/-- Bytes that are no text are an error of the whole document. -/
def contentPointer (pointer : String) : SchemaFault → String
  | .notText _ => ""
  | _ => pointer

/-- How a document at a pointer fares with what a schema refers to. -/
abbrev Follow := SchemaTarget → String → Json → List SchemaError

mutual

def Schema.check (follow : Follow) (pointer : String) (json : Json) :
    Schema → List SchemaError
  | .anything => []
  | .nothing => [⟨pointer, json, .nothingAllowed⟩]
  | .reference target => follow target pointer json
  | .keywords list => checkKeywords follow pointer json list

def checkKeywords (follow : Follow) (pointer : String) (json : Json) :
    List Keyword → List SchemaError
  | [] => []
  | keyword :: rest =>
    keyword.check follow pointer json ++ checkKeywords follow pointer json rest

def Keyword.check (follow : Follow) (pointer : String) (json : Json) :
    Keyword → List SchemaError
  | .allOf branches => checkAll follow pointer json branches
  | .among options => errorUnless (options.any json.equal) pointer json (.notAmong options)
  | .anyOf branches =>
    errorUnless (isValidUnderAny follow pointer json branches) pointer json
      (.noBranch "anyOf")
  | .atLeast measure count =>
    errorUnless ((json.count? measure).all (count ≤ ·)) pointer json (.fewer measure count)
  | .atMost measure count =>
    errorUnless ((json.count? measure).all (· ≤ count)) pointer json (.more measure count)
  | .conditional condition positive negative =>
    if (condition.check follow pointer json).isEmpty then positive.check follow pointer json
    else negative.check follow pointer json
  | .constant value => errorUnless (json.isConstant value) pointer json (.notConstant value)
  | .contains schema =>
    match json with
    | .array items =>
      errorUnless (items.any fun item => (schema.check follow pointer item).isEmpty) pointer
        json .noneContained
    | _ => []
  | .content content =>
    match json.string?.bind content.fault? with
    | some fault => [⟨contentPointer pointer fault, json, fault⟩]
    | none => []
  | .dependencies list =>
    match json with
    | .object members => checkDependencies follow pointer json members list
    | _ => []
  | .distinct =>
    errorUnless (json.array?.all Json.allDistinct) pointer json .repeatedItems
  | .excluded => [⟨pointer, json, .nothingAllowed⟩]
  | .format format =>
    errorUnless (json.string?.all format.accepts) pointer json (.notOfFormat format)
  | .items schema =>
    match json with
    | .array items =>
      checkIndexed (fun place item => schema.check follow place item) pointer 0 items
    | _ => []
  | .members named patterned others =>
    match json with
    | .object members =>
      let known (name place : String) (value : Json) : Option (List SchemaError) :=
        let byName := checkNamed follow name place value named
        let byPattern := checkPatterned follow name place value patterned
        if byName.isNone && byPattern.isNone then
          checkOptional follow place value others
        else some (byName.getD [] ++ byPattern.getD [])
      let results := members.map fun (name, value) =>
        (name, known name (pointerTo pointer name) value)
      let unexpected := (results.filter fun result => result.2.isNone).map Prod.fst
      results.flatMap (fun result => result.2.getD [])
        ++ errorUnless unexpected.isEmpty pointer json (.extraMembers unexpected)
    | _ => []
  | .multipleOf divisor =>
    errorUnless (json.isMultipleOf divisor) pointer json (.notMultiple divisor)
  | .no schema written =>
    errorUnless (!(schema.check follow pointer json).isEmpty) pointer json (.refused written)
  | .noMembers =>
    match json with
    | .object ((_, value) :: _) => [⟨pointer, value, .nothingAllowed⟩]
    | _ => []
  | .noNames =>
    match json with
    | .object (_ :: _) => [⟨pointer, json, .nothingAllowed⟩]
    | _ => []
  | .number limit bound =>
    errorUnless (!json.isBeyond bound limit) pointer json (.beyond limit bound)
  | .oneOf branches =>
    match validBranches follow pointer json branches with
    | 0 => [⟨pointer, json, .noBranch "oneOf"⟩]
    | 1 => []
    | _ => [⟨pointer, json, .severalBranches⟩]
  | .pattern search source =>
    errorOf pointer json (json.string?.bind (searchFault? search source))
  | .patternProperties list =>
    match json with
    | .object members => checkMatching follow pointer members list
    | _ => []
  | .properties list =>
    match json with
    | .object members => checkProperties follow pointer members list
    | _ => []
  | .propertyNames schema =>
    match json with
    | .object members =>
      members.flatMap fun (name, _) =>
        (schema.check follow pointer (.string name)).map fun error => { error with pointer }
    | _ => []
  | .required names =>
    match json with
    | .object members =>
      (names.filter fun name => (members.lookup name).isNone).map fun name =>
        ⟨pointer, json, .missing (.string name)⟩
    | _ => []
  | .rest count schema =>
    match json, schema with
    | .array items, none =>
      errorUnless (items.length ≤ count) pointer json (.extraItems count)
    | .array items, some schema =>
      checkIndexed (fun place item => schema.check follow place item) pointer count
        (items.drop count)
    | _, _ => []
  | .tuple list =>
    match json with
    | .array items => checkTuple follow pointer 0 items list
    | _ => []
  | .type types wholeReals =>
    errorUnless (types.any (json.hasType wholeReals)) pointer json (.wrongType types)

def checkAll (follow : Follow) (pointer : String) (json : Json) :
    List Schema → List SchemaError
  | [] => []
  | branch :: rest => branch.check follow pointer json ++ checkAll follow pointer json rest

def isValidUnderAny (follow : Follow) (pointer : String) (json : Json) :
    List Schema → Bool
  | [] => false
  | branch :: rest =>
    (branch.check follow pointer json).isEmpty || isValidUnderAny follow pointer json rest

/-- How many branches the document is valid under. -/
def validBranches (follow : Follow) (pointer : String) (json : Json) : List Schema → Nat
  | [] => 0
  | branch :: rest =>
    (if (branch.check follow pointer json).isEmpty then 1 else 0)
      + validBranches follow pointer json rest

def checkTuple (follow : Follow) (pointer : String) :
    Nat → List Json → List Schema → List SchemaError
  | index, item :: items, schema :: rest =>
    schema.check follow (pointerAt pointer index) item
      ++ checkTuple follow pointer (index + 1) items rest
  | _, _, _ => []

/-- By the schema for a name; nothing when there is none. -/
def checkNamed (follow : Follow) (name place : String) (value : Json) :
    List (String × Schema) → Option (List SchemaError)
  | [] => none
  | (other, schema) :: rest =>
    if name = other then some (schema.check follow place value)
    else checkNamed follow name place value rest

/-- By the schemas whose patterns match a name; nothing when none does. -/
def checkPatterned (follow : Follow) (name place : String) (value : Json) :
    List (Search × Schema) → Option (List SchemaError)
  | [] => none
  | (search, schema) :: rest =>
    let others := checkPatterned follow name place value rest
    if search.isFoundIn name then some (schema.check follow place value ++ others.getD [])
    else others

def checkOptional (follow : Follow) (pointer : String) (json : Json) :
    Option Schema → Option (List SchemaError)
  | none => none
  | some schema => some (schema.check follow pointer json)

def checkMatching (follow : Follow) (pointer : String) (members : List (String × Json)) :
    List (Search × Schema) → List SchemaError
  | [] => []
  | (search, schema) :: rest =>
    ((members.filter fun member => search.isFoundIn member.1).flatMap fun member =>
        schema.check follow (pointerTo pointer member.1) member.2)
      ++ checkMatching follow pointer members rest

def checkProperties (follow : Follow) (pointer : String) (members : List (String × Json)) :
    List (String × Schema) → List SchemaError
  | [] => []
  | (name, schema) :: rest =>
    (match members.lookup name with
      | some json => schema.check follow (pointerTo pointer name) json
      | none => [])
      ++ checkProperties follow pointer members rest

def checkDependencies (follow : Follow) (pointer : String) (json : Json)
    (members : List (String × Json)) : List (String × Schema) → List SchemaError
  | [] => []
  | (name, schema) :: rest =>
    (if (members.lookup name).isSome then schema.check follow pointer json else [])
      ++ checkDependencies follow pointer json members rest

end

end Asn1Constraints
