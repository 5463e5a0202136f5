import Asn1Constraints.Json.Printer
import Asn1Constraints.Text.Hex

/-!
What can be wrong with a model, with a name and with an instance document.
-/

namespace Asn1Constraints

/-- What is wrong with one node of a model. -/
inductive Defect where
  | missingId
  | idOnReference
  | repeatedId (id : UInt32) (holder : String)
  | integerBounds (min max : Int64)
  | realBounds (min max : Binary64)
  | sizeBounds (min max : UInt64)
  | noItems
  | repeatedItemName (name : String)
  | repeatedItemValue (value : Int64)
  | repeatedComponent (name : String)
  | noAlternatives
  | repeatedAlternative (name : String)
  | unknownTarget (target : String)

/-- A defect of the model, not of an instance. -/
inductive Malformation where
  | repeatedType (module type : String)
  | node (place : String) (defect : Defect)
  | recursiveTypes (names : List String)
  | endlessReferences (module : String)
  | recursiveReferenceAt (place target : String)
  | recursiveReference (target : String)
  | noItems
  | noAlternatives
  | oversized (size : UInt64)

/-- Why a document and a type, or a value and a type, do not fit each other. -/
inductive Misfit where
  | document (expected : String) (found : Json)
  | unknownItem (name : String)
  | hex (error : Hex.Error)
  | bit (found : Char)
  | unknownComponent (name : String)
  | unknownAlternative (name : String)
  | unrepresentable (found : Binary64)
  | undeclaredItem (found : Int64)
  | kind (expected found : String)

inductive Error where
  | malformed (cause : Malformation)
  | unknownType (module type : String)
  | invalidValue (place : String) (cause : Misfit)

/-- Longest string or collection an instance is built with. -/
def instanceLimit : UInt64 := 16777216

def Defect.message : Defect → String
  | .missingId => "missing constraint id"
  | .idOnReference => "reference nodes cannot carry a constraint id"
  | .repeatedId id holder => s!"constraint id {id} already used by {holder}"
  | .integerBounds min max => s!"integer bounds min {min} > max {max}"
  | .realBounds min max =>
    let low := Layout.plain.text min
    let high := Layout.plain.text max
    s!"real bounds [{low}, {high}] are inconsistent"
  | .sizeBounds min max => s!"size bounds {min} > {max}"
  | .noItems => "enumerated type has no items"
  | .repeatedItemName name => s!"duplicate enumerated item name: {name}"
  | .repeatedItemValue value => s!"duplicate enumerated item value: {value}"
  | .repeatedComponent name => s!"duplicate field name: {name}"
  | .noAlternatives => "choice has no alternatives"
  | .repeatedAlternative name => s!"duplicate alternative name: {name}"
  | .unknownTarget target => s!"reference to unknown type: {target}"

def Malformation.message : Malformation → String
  | .repeatedType module type => s!"duplicate type name: {module}.{type}"
  | .node place defect => s!"{place}: {defect.message}"
  | .recursiveTypes names =>
    let listed := String.intercalate ", " names
    s!"recursive types are not supported: {listed}"
  | .endlessReferences module => s!"reference chain does not terminate in module {module}"
  | .recursiveReferenceAt place target => s!"{place}: recursive reference to {target}"
  | .recursiveReference target => s!"recursive reference to {target}"
  | .noItems => "enumerated type has no items"
  | .noAlternatives => "choice has no alternatives"
  | .oversized size => s!"size {size} exceeds the instance limit of {instanceLimit}"

def Misfit.message : Misfit → String
  | .document expected found => s!"expected {expected}, found {found.text}"
  | .unknownItem name => s!"unknown enumerated item '{name}'"
  | .hex error => error.message
  | .bit found => s!"unexpected bit character '{found}'"
  | .unknownComponent name => s!"unknown field '{name}'"
  | .unknownAlternative name => s!"unknown alternative '{name}'"
  | .unrepresentable found =>
    let shown := Layout.plain.text found
    s!"{shown} is not representable"
  | .undeclaredItem found => s!"{found} is not a declared item"
  | .kind expected found => s!"expected {expected} value, found {found}"

def Error.message : Error → String
  | .malformed cause => s!"malformed type model: {cause.message}"
  | .unknownType module type => s!"unknown type: {module}.{type}"
  | .invalidValue place cause => s!"invalid value: {place}: {cause.message}"

end Asn1Constraints
