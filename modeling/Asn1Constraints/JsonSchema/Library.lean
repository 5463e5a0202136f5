import Asn1Constraints.Files.Store
import Asn1Constraints.Json.Scanner
import Asn1Constraints.JsonSchema.MetaSchema
import Asn1Constraints.JsonSchema.Reading

/-!
The documents that references can lead to: the schema document, every schema in
it that says where it is, and the schemas of schemas. The fragment of a
reference walks into a document by member names and item numbers.
-/

namespace Asn1Constraints

structure SchemaLibrary where
  root : Json
  /-- The schemas that say where they are. Of those that name the same place the last
  one counts, and comes first here. -/
  published : List (Location × Json)
  /-- Other documents: the root at its own place, and the schemas of schemas. -/
  stored : List (Location × Json)

namespace SchemaLibrary

mutual

/-- The schemas inside a document that say where they are; a place that cannot
be read spoils the whole document. -/
def published? (dialect : Dialect) (place : Location) :
    Json → Option (List (Location × Json))
  | .array items => publishedItems? dialect place items
  | .object members =>
    match dialect.placeOf? members with
    | none => publishedMembers? dialect place members
    | some text => do
      let joined ← (place.join text).toOption
      let here := joined.withoutEmptyFragment
      let inner ← publishedMembers? dialect here members
      return (here, .object members) :: inner
  | _ => some []

def publishedItems? (dialect : Dialect) (place : Location) :
    List Json → Option (List (Location × Json))
  | [] => some []
  | item :: rest => do
    let first ← published? dialect place item
    let others ← publishedItems? dialect place rest
    return first ++ others

/-- Constants are not searched for schemas. -/
def publishedMembers? (dialect : Dialect) (place : Location) :
    List (String × Json) → Option (List (Location × Json))
  | [] => some []
  | (name, value) :: rest => do
    let first ←
      if name = "enum" || name = "const" then some [] else published? dialect place value
    let others ← publishedMembers? dialect place rest
    return first ++ others

end

/-- Where a document is: where it says it is, or nowhere. -/
def rootPlace? (dialect : Dialect) (schema : Json) : Option Location :=
  match schema.object?.bind dialect.placeOf? with
  | some text => Location.ofText? text
  | none => some .nameless

def metaSchemas : List (Location × Json) :=
  Dialect.all.filterMap fun dialect =>
    (Location.ofText? dialect.metaSchemaPlace).map fun place =>
      (place, MetaSchema.document dialect)

def of? (dialect : Dialect) (place : Location) (schema : Json) : Option SchemaLibrary := do
  let schemas ← published? dialect place schema
  return ⟨schema, schemas.reverse, (place, schema) :: metaSchemas⟩

def documents (library : SchemaLibrary) : List (Location × Json) :=
  (.nameless, library.root) :: library.published ++ library.stored

/-- The document at a place. Nothing takes the place of the root from it when it has
no name. -/
def documentAt? (library : SchemaLibrary) (place : Location) : Option Json :=
  library.documents.lookup place

/-! Walking into a document. -/

/-- `~1` stands for a slash and `~0` for a tilde. -/
def memberName : List Char → List Char
  | '~' :: '1' :: rest => '/' :: memberName rest
  | '~' :: '0' :: rest => '~' :: memberName rest
  | c :: rest => c :: memberName rest
  | [] => []

def itemNumber? (token : List Char) : Option Nat :=
  if token != [] && token.all Char.isDigit && (token.length = 1 || token.head? != some '0') then
    some (Address.decimal token)
  else none

def step? (token : List Char) : Json → Option Json
  | .object members => members.lookup (String.ofList (memberName token))
  | .array items => (itemNumber? (memberName token)).bind fun index => items[index]?
  | _ => none

/-- The document that the tokens lead to, and the places of the schemas passed. -/
def walk? (dialect : Dialect) (json : Json) : List (List Char) → Option (List String × Json)
  | [] => some ([], json)
  | token :: rest => do
    let next ← step? token json
    let (places, target) ← walk? dialect next rest
    match json.object?.bind dialect.placeOf? with
    | some place => return (place :: places, target)
    | none => return (places, target)

/-- The place of a document as seen from inside it. The first schema passed is
the document itself. -/
def innerPlace (place : Location) (passed : List String) : SchemaReading Location :=
  ((passed.drop 1).foldlM Location.join place).mapError Schema.unreadable

/-! Documents from elsewhere. -/

def unreachable {α : Type} (place : Location) (reason : Unreachable) : SchemaReading α :=
  .error ⟨"", .null, .unreachable place reason⟩

/-- The document that is the content of a file. -/
def contentOf (place : Location) (content : String) : SchemaReading Json :=
  match Json.parse content with
  | .ok json => .ok json
  | .error _ => unreachable place (if content = "" then .emptyFile else .notJson)

/-- Nothing is known of the machine but what is on all of them. -/
def fileAt (place : Location) : SchemaReading Json :=
  if place.authority != some "" then unreachable place .noHost
  else
    match String.fromUTF8? ⟨place.pathBytes.toArray⟩ with
    | none => unreachable place (.file .notFound)
    | some path =>
      match FileStore.empty.find ⟨path⟩ with
      | .ok (.file content) => contentOf place content
      | .ok .directory => unreachable place (.file .isDirectory)
      | .ok .vacant => unreachable place (.file .notFound)
      | .error error => unreachable place (.file error)

/-- A document that is not among the known ones. -/
def outside (place : Location) : SchemaReading Json :=
  match place.scheme with
  | "http" | "https" => unreachable place .noConnection
  | "file" => fileAt place
  | "json-schema" => unreachable place .namelessDocument
  | _ => unreachable place .unknownScheme

def noSchema {α : Type} (place : Location) : SchemaReading α :=
  .error ⟨"", .null, .noSchema place⟩

/-- The pointer in the fragment of a place, its bytes decoded. -/
def pointerOf (place : Location) : SchemaReading (List Char) :=
  let bytes := Percent.decode (place.fragment.getD "").toList
  match Utf8.fault? bytes, String.fromUTF8? ⟨bytes.toArray⟩ with
  | none, some pointer => .ok pointer.toList
  | some fault, _ => .error ⟨"", .null, .notText fault⟩
  | none, none => noSchema place

/-- The part of a document that a pointer picks, with the place to read it at. -/
def pick (target : SchemaTarget) (document : Json) (pointer : List Char) :
    SchemaReading (Location × Json) :=
  let place := target.place.document
  match Text.pieces (· == '/') pointer with
  | [[]] => .ok (place, document)
  | [] :: tokens =>
    match walk? target.dialect document tokens with
    | some (passed, part) => do return (← innerPlace place passed, part)
    | none => noSchema target.place
  | _ => noSchema target.place

/-- What a schema refers to, with the place to read it at. -/
def find (library : SchemaLibrary) (target : SchemaTarget) : SchemaReading (Location × Json) := do
  let pointer ← pointerOf target.place
  match library.published.lookup target.place with
  | some json => return (target.place.document, json)
  | none =>
    let document ←
      match library.documentAt? target.place.document with
      | some document => .ok document
      | none => outside target.place.document
    pick target document pointer

/-- Read what a schema refers to, in the version that it names or else in the version
of the schema that refers to it. -/
def read (library : SchemaLibrary) (target : SchemaTarget) : SchemaReading Schema := do
  let (place, json) ← library.find target
  Schema.ofJson ((Dialect.named? json).getD target.dialect) place.asBase "" json

end SchemaLibrary

end Asn1Constraints
