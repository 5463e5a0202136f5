import Asn1Constraints.Json.Scanner
import Asn1Constraints.TypeModel.Document

/-!
A module read straight from its text, without the whole document in between.
Parts are read as they arrive, so what is wrong first in the text decides; a
repeated part is a fault here, and an unknown one is skipped unread. Type nodes
are taken as documents, since a kind may come after its parts.
-/

namespace Asn1Constraints

open Json (Scanned)

namespace Json

/-- A part that is neither array nor object. Those are refused at sight. -/
def scanSimple {α : Type} (reader : Json → Except Fault α) (chars : List Char) : Scanned α :=
  match chars with
  | '[' :: rest => ((reader (.array [])).mapError .mismatch).map fun value => (value, rest)
  | '\x7b' :: rest => ((reader (.object [])).mapError .mismatch).map fun value => (value, rest)
  | _ =>
    match scanScalar true chars with
    | .error error => .error error
    | .ok (json, rest) => ((reader json).mapError .mismatch).map fun value => (value, rest)

/-- The reader of something that no simple part can be. -/
def refuse {α : Type} (expected : String) (found : Json) : Except Fault α :=
  .error (.wrongType found expected)

/-- Where the next item of an array starts, if there is one. -/
def nextItem (first : Bool) (chars : List Char) : Except Error (Option (List Char)) :=
  match skipBlanks chars with
  | [] => .error .unreadable
  | ']' :: _ => .ok none
  | ',' :: rest =>
    match skipBlanks rest with
    | [] => .error .unreadable
    | ']' :: _ => .error .unreadable
    | start => if first then .error .unreadable else .ok (some start)
  | start => if first then .ok (some start) else .error .unreadable

/-- The item at a position of an array that stands for a record. -/
def scanItemAt {α : Type} (position : Nat) (expected : String)
    (item : List Char → Scanned α) (chars : List Char) : Scanned α :=
  match nextItem (position == 0) chars with
  | .error error => .error error
  | .ok none => .error (.mismatch (.shortArray position expected))
  | .ok (some start) => item start

def endItems (chars : List Char) : Scanned Unit :=
  match skipBlanks chars with
  | ']' :: rest => .ok ((), rest)
  | _ => .error .unreadable

def scanPart {α : Type} (part : List Char → Scanned α) (chars : List Char) :
    Scanned (Option α) :=
  (part chars).map fun scanned => (some scanned.1, scanned.2)

def requiredPart {α : Type} (name : String) (part : Option α) : Except Error α :=
  (required name part).mapError .mismatch

end Json

open Json

namespace TypeNode

def isTaken (members : Members) (key : String) : Bool :=
  key = "id" && (members.lookup key).isSome

def scanMember (budget levels : Nat) (members : Members) (key : String) (chars : List Char) :
    Except Json.Error (Members × List Char) := do
  if key = "id" then
    let (id, rest) ← scanSimple readUInt32 chars
    return (("id", .ofUInt32 id) :: members, rest)
  else
    let (json, rest) ← scanDocument true budget levels chars
    return ((key, json) :: members, rest)

def scan (budget levels : Nat) (chars : List Char) :
    Except Json.Error (TypeNode × List Char) := do
  match chars with
  | '\x7b' :: rest =>
    let (members, rest) ← scanMembers true budget isTaken (scanMember budget levels) [] rest
    let node ← (ofJson (.object members.reverse)).mapError .mismatch
    return (node, rest)
  | _ => scanSimple (refuse "struct TypeNode") chars

end TypeNode

namespace TypeAssignment

structure Draft where
  name : Option String
  type : Option TypeNode

/-- Levels left inside a node of an assignment of a module: one each for the
module, its list of types, the assignment and the node are taken. -/
def nodeLevels : Nat := levelLimit - 4

def isTaken (draft : Draft) (key : String) : Bool :=
  (key = "name" && draft.name.isSome) || (key = "type" && draft.type.isSome)

def scanMember (budget : Nat) (draft : Draft) (key : String) (chars : List Char) :
    Except Json.Error (Draft × List Char) := do
  if key = "name" then
    let (name, rest) ← scanPart (scanSimple readString) chars
    return ({ draft with name }, rest)
  else if key = "type" then
    let (type, rest) ← scanPart (TypeNode.scan budget nodeLevels) chars
    return ({ draft with type }, rest)
  else
    let (_, rest) ← skipDocument budget chars
    return (draft, rest)

def scan (budget : Nat) (chars : List Char) :
    Except Json.Error (TypeAssignment × List Char) := do
  match chars with
  | '\x7b' :: rest =>
    let (draft, rest) ← scanMembers true budget isTaken (scanMember budget) ⟨none, none⟩ rest
    let name ← requiredPart "name" draft.name
    let type ← requiredPart "type" draft.type
    return (⟨name, type⟩, rest)
  | '[' :: rest =>
    let expected := "struct TypeAssignment with 2 elements"
    let (name, rest) ← scanItemAt 0 expected (scanSimple readString) rest
    let (type, rest) ← scanItemAt 1 expected (TypeNode.scan budget nodeLevels) rest
    let (_, rest) ← endItems rest
    return (⟨name, type⟩, rest)
  | _ => scanSimple (refuse "struct TypeAssignment") chars

def scanList (budget : Nat) (chars : List Char) :
    Except Json.Error (List TypeAssignment × List Char) := do
  let item (known : List TypeAssignment) (text : List Char) : Scanned (List TypeAssignment) :=
    (scan budget text).map fun scanned => (scanned.1 :: known, scanned.2)
  match chars with
  | '[' :: rest =>
    let (assignments, rest) ← scanItems budget item [] rest
    return (assignments.reverse, rest)
  | _ => scanSimple (refuse "a sequence") chars

end TypeAssignment

namespace TypeModule

structure Draft where
  version : Option String
  name : Option String
  types : Option (List TypeAssignment)

def isTaken (draft : Draft) (key : String) : Bool :=
  (key = "module_version" && draft.version.isSome) || (key = "name" && draft.name.isSome)
    || (key = "types" && draft.types.isSome)

def scanMember (budget : Nat) (draft : Draft) (key : String) (chars : List Char) :
    Except Json.Error (Draft × List Char) := do
  if key = "module_version" then
    let (version, rest) ← scanPart (scanSimple readString) chars
    return ({ draft with version }, rest)
  else if key = "name" then
    let (name, rest) ← scanPart (scanSimple readString) chars
    return ({ draft with name }, rest)
  else if key = "types" then
    let (types, rest) ← scanPart (TypeAssignment.scanList budget) chars
    return ({ draft with types }, rest)
  else
    let (_, rest) ← skipDocument budget chars
    return (draft, rest)

def scan (budget : Nat) (chars : List Char) :
    Except Json.Error (TypeModule × List Char) := do
  match chars with
  | '\x7b' :: rest =>
    let (draft, rest) ← scanMembers true budget isTaken (scanMember budget) ⟨none, none, none⟩ rest
    let version ← requiredPart "module_version" draft.version
    let name ← requiredPart "name" draft.name
    let types ← requiredPart "types" draft.types
    return (⟨version, name, types⟩, rest)
  | '[' :: rest =>
    let expected := "struct TypeModule with 3 elements"
    let (version, rest) ← scanItemAt 0 expected (scanSimple readString) rest
    let (name, rest) ← scanItemAt 1 expected (scanSimple readString) rest
    let (types, rest) ← scanItemAt 2 expected (TypeAssignment.scanList budget) rest
    let (_, rest) ← endItems rest
    return (⟨version, name, types⟩, rest)
  | _ => scanSimple (refuse "struct TypeModule") chars

/-- The module in a text. -/
def ofText (text : String) : Except Json.Error TypeModule :=
  finish (scan text.length (skipBlanks text.toList))

end TypeModule

end Asn1Constraints
