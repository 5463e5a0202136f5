import Asn1Constraints.Location.Percent
import Asn1Constraints.Text.Split

/-!
Locations of documents: a scheme, the host it may name, a path, and the
fragment that picks a place in the document. A path is a list of steps, or
plain text for a scheme that knows no steps.
-/

namespace Asn1Constraints

/-- Why a text is no location. -/
inductive LocationFault where
  | emptyHost
  | badName
  | badService
  | badShortAddress
  | badLongAddress
  | badHostCharacter
  /-- A reference that has to be read in a document stands alone. -/
  | noBase
  /-- The document that a reference stands in has no steps to follow it from. -/
  | steplessBase
deriving DecidableEq, Repr

def LocationFault.message : LocationFault → String
  | .emptyHost => "empty host"
  | .badName => "invalid international domain name"
  | .badService => "invalid port number"
  | .badShortAddress => "invalid IPv4 address"
  | .badLongAddress => "invalid IPv6 address"
  | .badHostCharacter => "invalid domain character"
  | .noBase => "relative URL without a base"
  | .steplessBase => "relative URL with a cannot-be-a-base base"

inductive LocationPath where
  | plain (text : String)
  | steps (list : List String)
deriving DecidableEq, Repr

structure Location where
  scheme : String
  /-- What stands between the double slash and the path; none without the slashes. -/
  authority : Option String
  path : LocationPath
  query : Option String
  fragment : Option String
deriving DecidableEq, Repr

namespace LocationPath

def text : LocationPath → String
  | .plain text => text
  | .steps list => String.join (list.map fun step => "/" ++ step)

/-- Whether the text could be taken for a host when no host stands before it. -/
def looksLikeHost : LocationPath → Bool
  | .steps ("" :: _ :: _) => true
  | _ => false

end LocationPath

namespace Location

def marked (mark : String) : Option String → String
  | some part => mark ++ part
  | none => ""

def text (location : Location) : String :=
  let host := marked "//" location.authority
  let guard := if location.authority.isNone && location.path.looksLikeHost then "/." else ""
  location.scheme ++ ":" ++ host ++ guard ++ location.path.text
    ++ marked "?" location.query ++ marked "#" location.fragment

/-- The whole document that a location lies in. Blanks at the end of plain text only
count in front of a fragment. -/
def document (location : Location) : Location :=
  let path :=
    match location.path, location.query with
    | .plain text, none => .plain (String.ofList (Text.trimEnd (· == ' ') text.toList))
    | path, _ => path
  { location with path, fragment := none }

/-- The bytes of the path of a file. Behind the letter of a drive stands a slash. -/
def pathBytes (location : Location) : List UInt8 :=
  let bytes := Percent.decode location.path.text.toList
  match bytes.reverse with
  | mark :: letter :: _ :: _ =>
    let isDrive := (Char.ofNat letter.toNat).isAlpha && (mark = 58 || mark = 124)
    if isDrive then bytes ++ [47] else bytes
  | _ => bytes

/-- An empty fragment stands for the whole document. -/
def withoutEmptyFragment (location : Location) : Location :=
  if location.fragment = some "" then location.document else location

/-- A document without name, for schemas that do not say where they are. -/
def nameless : Location := ⟨"json-schema", some "", .steps [""], none, none⟩

def isNameless (location : Location) : Bool := location.scheme == nameless.scheme

/-- What references are read against. Nothing leads on from a document without name
but its own parts. -/
def asBase (location : Location) : Location :=
  if location.isNameless then nameless else location

end Location

end Asn1Constraints
