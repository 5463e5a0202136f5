import Asn1Constraints.Codec.Boundary
import Asn1Constraints.Json.Scanner
import Asn1Constraints.Value.Document

/-!
JSON lines. Encoding appends one compact document and a line feed; decoding
takes the next line that is not blank. The bytes stay where they are, and a
cursor marks how far they have been read.
-/

namespace Asn1Constraints

structure JsonLines where
  bytes : List UInt8
  cursor : Nat
deriving DecidableEq, Repr

namespace JsonLines

inductive Error where
  | json
  | model (error : Asn1Constraints.Error)
  | exhausted

def Error.message : Error → String
  | .json => "json error"
  | .model error => error.message
  | .exhausted => "no more encoded values"

def empty : JsonLines := ⟨[], 0⟩

def ofBytes (bytes : List UInt8) : JsonLines := ⟨bytes, 0⟩

def lineFeed : UInt8 := 10

/-- Space, tab, line feed, form feed and carriage return. -/
def isBlank (byte : UInt8) : Bool :=
  byte = 32 || byte = 9 || byte = 10 || byte = 12 || byte = 13

def unread (lines : JsonLines) : List UInt8 := lines.bytes.drop lines.cursor

/-- The next line that is not blank, and the cursor behind it. -/
def nextLine? (lines : JsonLines) : Option (List UInt8 × Nat) :=
  let rest := lines.unread
  match rest.dropWhile isBlank with
  | [] => none
  | start =>
    let line := start.takeWhile (· ≠ lineFeed)
    some (line, lines.cursor + (rest.takeWhile isBlank).length + line.length)

def textOf? (bytes : List UInt8) : Option String := String.fromUTF8? ⟨bytes.toArray⟩

def documentOf? (bytes : List UInt8) : Option Json :=
  match textOf? bytes with
  | none => none
  | some text => (Json.parse text).toOption

def append (lines : JsonLines) (json : Json) : JsonLines :=
  { lines with bytes := lines.bytes ++ json.text.toUTF8.toList ++ [lineFeed] }

def encode (module : TypeModule) (node : TypeNode) (value : Value) :
    ExceptT Error (StateM JsonLines) Unit :=
  ExceptT.mk fun lines =>
    match value.toJson module node with
    | .error error => (.error (.model error), lines)
    | .ok json => (.ok (), lines.append json)

/-- A line that is no document stays unread; a document that does not fit the
type is read all the same. -/
def decode (module : TypeModule) (node : TypeNode) : ExceptT Error (StateM JsonLines) Value :=
  ExceptT.mk fun lines =>
    match lines.nextLine? with
    | none => (.error .exhausted, lines)
    | some (line, cursor) =>
      match documentOf? line with
      | none => (.error .json, lines)
      | some json =>
        ((Value.ofJson module node json).mapError .model, { lines with cursor })

/-- Documents always carry complete values, so the seed of a decode is not used. -/
def codec : Codec JsonLines Error where
  encode := encode
  decode := fun module node _ => decode module node

end JsonLines

end Asn1Constraints
