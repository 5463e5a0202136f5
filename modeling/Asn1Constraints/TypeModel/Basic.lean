import Asn1Constraints.TypeModel.Bounds
import Asn1Constraints.TypeModel.Error

/-!
Type models. A node is either a concrete shape or a reference to a named type
of the same module; shapes do not care what their parts are, so a model and the
tree that remains once its references are followed share them.
-/

namespace Asn1Constraints

/-- Named part of a SEQUENCE; an optional one may be absent from an instance. -/
structure Component (Node : Type) where
  name : String
  optional : Bool
  type : Node

/-- Named case of a CHOICE. -/
structure Alternative (Node : Type) where
  name : String
  type : Node

inductive Shape (Node : Type) where
  | integer (bounds : IntegerBounds)
  | real (bounds : RealBounds)
  | boolean
  | null
  | enumerated (items : List EnumItem)
  | octetString (size : SizeBounds)
  | bitString (size : SizeBounds)
  | ia5String (size : SizeBounds)
  | sequenceOf (size : SizeBounds) (element : Node)
  | sequence (components : List (Component Node))
  | choice (alternatives : List (Alternative Node))

inductive TypeNode where
  | shaped (id : ConstraintId) (shape : Shape TypeNode)
  | reference (id : ConstraintId) (target : String)

/-- `name ::= type`. -/
structure TypeAssignment where
  name : String
  type : TypeNode

structure TypeModule where
  version : String
  name : String
  types : List TypeAssignment

/-- The only version of the model format there is. -/
def modelVersion : String := "0.1"

def EnumItem.byName? (items : List EnumItem) (name : String) : Option EnumItem :=
  items.find? fun item => item.name == name

def EnumItem.byValue? (items : List EnumItem) (value : Int64) : Option EnumItem :=
  items.find? fun item => item.value == value

def Component.byName? {Node : Type} (components : List (Component Node)) (name : String) :
    Option (Component Node) :=
  components.find? fun component => component.name == name

def Alternative.byName? {Node : Type} (alternatives : List (Alternative Node)) (name : String) :
    Option (Alternative Node) :=
  alternatives.find? fun alternative => alternative.name == name

namespace Shape

variable {Node : Type}

def label : Shape Node → String
  | .integer _ => "integer"
  | .real _ => "real"
  | .boolean => "boolean"
  | .null => "null"
  | .enumerated _ => "enumerated"
  | .octetString _ => "octet_string"
  | .bitString _ => "bit_string"
  | .ia5String _ => "ia5_string"
  | .sequenceOf _ _ => "sequence_of"
  | .sequence _ => "sequence"
  | .choice _ => "choice"

/-- Whether a node of this shape must carry a constraint id. -/
def requiresCheck : Shape Node → Bool
  | .boolean => false
  | .null => false
  | _ => true

/-- Size bounds of the kinds that have a size. -/
def size? : Shape Node → Option SizeBounds
  | .octetString size => some size
  | .bitString size => some size
  | .ia5String size => some size
  | .sequenceOf size _ => some size
  | _ => none

end Shape

namespace TypeNode

def id : TypeNode → ConstraintId
  | .shaped id _ => id
  | .reference id _ => id

def label : TypeNode → String
  | .shaped _ shape => shape.label
  | .reference _ _ => "reference"

def requiresCheck : TypeNode → Bool
  | .shaped _ shape => shape.requiresCheck
  | .reference _ _ => false

/-! Names of the referenced types, in declaration order, repeats kept. -/

mutual

def references : TypeNode → List String
  | .reference _ target => [target]
  | .shaped _ (.sequenceOf _ element) => element.references
  | .shaped _ (.sequence components) => componentReferences components
  | .shaped _ (.choice alternatives) => alternativeReferences alternatives
  | .shaped _ _ => []

def componentReferences : List (Component TypeNode) → List String
  | [] => []
  | ⟨_, _, type⟩ :: rest => type.references ++ componentReferences rest

def alternativeReferences : List (Alternative TypeNode) → List String
  | [] => []
  | ⟨_, type⟩ :: rest => type.references ++ alternativeReferences rest

end

end TypeNode

namespace TypeModule

/-- The first assignment of that name. -/
def find? (module : TypeModule) (name : String) : Option TypeAssignment :=
  module.types.find? fun assignment => assignment.name == name

def require (module : TypeModule) (name : String) : Except Error TypeAssignment :=
  match module.find? name with
  | some assignment => .ok assignment
  | none => .error (.unknownType module.name name)

/-- A node that is no reference. -/
structure Resolved where
  id : ConstraintId
  shape : Shape TypeNode

/-- Follow references until a shape is met; the budget is the number of nodes
that may be looked at. -/
def resolveWithin (module : TypeModule) : Nat → TypeNode → Except Error Resolved
  | 0, _ => .error (.malformed (.endlessReferences module.name))
  | _ + 1, .shaped id shape => .ok ⟨id, shape⟩
  | budget + 1, .reference _ target =>
    match module.require target with
    | .error error => .error error
    | .ok assignment => module.resolveWithin budget assignment.type

/-- A chain that ends visits each type at most once, so one node more than
there are types is enough. -/
def resolve (module : TypeModule) (node : TypeNode) : Except Error Resolved :=
  module.resolveWithin (module.types.length + 1) node

end TypeModule

end Asn1Constraints
