import Asn1Constraints.Files.System
import Asn1Constraints.JsonSchema.Basic
import Asn1Constraints.Json.Printer
import Asn1Constraints.Text.Utf8

/-!
What can be wrong with a document by a schema, and the sentence for each. A
sentence shows the part of the document it is about as JSON text.
-/

namespace Asn1Constraints

/-- Why the place of a reference cannot be read. -/
inductive Unreachable where
  | emptyFile
  | file (error : FileError)
  | namelessDocument
  | noConnection
  | noHost
  | notJson
  | unknownScheme
deriving DecidableEq, Repr

inductive SchemaFault where
  | abandoned (reason : Exhaustion)
  | beyond (limit : Limit) (bound : Json)
  | extraItems (count : Nat)
  | extraMembers (names : List String)
  | fewer (measure : Measure) (count : Nat)
  /-- A schema that makes no sense where it is asked for. -/
  | malformed
  | missing (name : Json)
  | more (measure : Measure) (count : Nat)
  | noBranch (keyword : String)
  | noSchema (place : Location)
  | noneContained
  | notAmong (options : List Json)
  | notConstant (value : Json)
  | notEncoded
  | notJson
  | notMatching (source : String)
  | notMultiple (divisor : Binary64)
  | notOfFormat (format : Format)
  | notText (fault : Utf8.Fault)
  | nothingAllowed
  | refused (written : Json)
  | repeatedItems
  | severalBranches
  | unreachable (place : Location) (reason : Unreachable)
  | unreadablePlace (fault : LocationFault)
  | wrongType (types : List JsonType)

/-- A fault with a JSON pointer: to the part of the document that it is about, or, for
a schema that cannot be read, to the part of the schema. -/
structure SchemaError where
  pointer : String
  document : Json
  fault : SchemaFault

/-! Pointers. -/

def pointerToken (c : Char) : List Char :=
  if c = '~' then ['~', '0'] else if c = '/' then ['~', '1'] else [c]

def pointerTo (pointer key : String) : String :=
  pointer ++ "/" ++ String.ofList (key.toList.flatMap pointerToken)

def pointerAt (pointer : String) (index : Nat) : String := s!"{pointer}/{index}"

/-! Sentences. -/

def Limit.phrase : Limit → String
  | .minimum => "less than the minimum of"
  | .maximum => "greater than the maximum of"
  | .exclusiveMinimum => "less than or equal to the minimum of"
  | .exclusiveMaximum => "greater than or equal to the maximum of"

def counted (count : Nat) (one several : String) : String :=
  s!"{count} " ++ if count = 1 then one else several

def Measure.fewerPhrase (measure : Measure) (count : Nat) : String :=
  match measure with
  | .items => "has less than " ++ counted count "item" "items"
  | .characters => "is shorter than " ++ counted count "character" "characters"
  | .members => "has less than " ++ counted count "property" "properties"

def Measure.morePhrase (measure : Measure) (count : Nat) : String :=
  match measure with
  | .items => "has more than " ++ counted count "item" "items"
  | .characters => "is longer than " ++ counted count "character" "characters"
  | .members => "has more than " ++ counted count "property" "properties"

def Unreachable.sentence (scheme : String) : Unreachable → String
  | .emptyFile => "EOF while parsing a value at line 1 column 0"
  | .file error => error.message
  | .namelessDocument => "cannot resolve relative external schema without root schema ID"
  | .noConnection => "error sending request for url"
  | .noHost => "invalid file path"
  | .notJson => "expected value at line 1 column 1"
  | .unknownScheme => s!"unknown scheme {scheme}"

namespace SchemaFault

def quotedNames (types : List JsonType) : String :=
  String.intercalate ", " (types.map fun type => "\"" ++ type.name ++ "\"")

def wereUnexpected (count : Nat) (listed : String) : String :=
  listed ++ if count = 1 then " was unexpected)" else " were unexpected)"

def extraItemsText (count : Nat) (items : List Json) : String :=
  let extra := items.drop count
  "Additional items are not allowed ("
    ++ wereUnexpected extra.length (String.intercalate ", " (extra.map Json.text))

def extraMembersText (names : List String) : String :=
  let quoted := names.map fun name => "\x27" ++ name ++ "\x27"
  "Additional properties are not allowed ("
    ++ wereUnexpected names.length (String.intercalate ", " quoted)

def unreachableText (place : Location) (reason : Unreachable) : String :=
  let sentence := reason.sentence place.scheme
  let named := if reason = .noConnection then s!"{sentence} ({place.text})" else sentence
  s!"failed to resolve {place.text}: {named}"

/-- The sentence about a document. -/
def text (document : Json) (fault : SchemaFault) : String :=
  let shown := document.text
  match fault with
  | .abandoned reason => reason.message
  | .beyond limit bound => s!"{shown} is {limit.phrase} {bound.text}"
  | .extraItems count => extraItemsText count (document.array?.getD [])
  | .extraMembers names => extraMembersText names
  | .fewer measure count => s!"{shown} " ++ measure.fewerPhrase count
  | .malformed => "Schema error"
  | .missing name => s!"{name.text} is a required property"
  | .more measure count => s!"{shown} " ++ measure.morePhrase count
  | .noBranch keyword =>
    shown ++ " is not valid under any of the schemas listed in the \x27" ++ keyword
      ++ "\x27 keyword"
  | .noSchema place => s!"Invalid reference: {place.text}"
  | .noneContained => s!"None of {shown} are valid under the given schema"
  | .notAmong options =>
    let listed := (Json.array options).text
    s!"{shown} is not one of {listed}"
  | .notConstant value => s!"{value.text} was expected"
  | .notEncoded => shown ++ " is not compliant with \"base64\" content encoding"
  | .notJson => shown ++ " is not compliant with \"application/json\" media type"
  | .notMatching source => shown ++ " does not match \"" ++ source ++ "\""
  | .notMultiple divisor =>
    let limit := Layout.plain.text divisor
    s!"{shown} is not a multiple of {limit}"
  | .notOfFormat format => shown ++ " is not a \"" ++ format.name ++ "\""
  | .nothingAllowed => s!"False schema does not allow {shown}"
  | .refused written => s!"{written.text} is not allowed for {shown}"
  | .repeatedItems => s!"{shown} has non-unique elements"
  | .severalBranches =>
    shown ++ " is valid under more than one of the schemas listed in the \x27oneOf\x27 keyword"
  | .unreachable place reason => unreachableText place reason
  | .notText fault => fault.message
  | .unreadablePlace fault => fault.message
  | .wrongType [type] =>
    let name := quotedNames [type]
    s!"{shown} is not of type {name}"
  | .wrongType types =>
    let names := quotedNames types
    s!"{shown} is not of types {names}"

end SchemaFault

def SchemaError.message (error : SchemaError) : String := error.fault.text error.document

end Asn1Constraints
