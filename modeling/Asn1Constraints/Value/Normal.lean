import Asn1Constraints.TypeModel.Basic
import Asn1Constraints.Value.Basic

/-!
The normal form of a value: at every level the declared components come first,
in declaration order, and the undeclared ones follow as they were. Values that
differ only in the order of their components have the same normal form.
-/

namespace Asn1Constraints.Value

abbrev PartNormalizer := TypeNode → Value → Except Error Value

/-- Every component that carries the declared name, in the order given. -/
def normalizeNamed (part : PartNormalizer) (component : Component TypeNode) :
    List (String × Value) → Except Error (List (String × Value))
  | [] => .ok []
  | (name, value) :: rest =>
    if name = component.name then do
      let value ← part component.type value
      let values ← normalizeNamed part component rest
      return (name, value) :: values
    else normalizeNamed part component rest

def normalizeDeclared (part : PartNormalizer) (values : List (String × Value)) :
    List (Component TypeNode) → Except Error (List (String × Value))
  | [] => .ok []
  | component :: rest => do
    let first ← normalizeNamed part component values
    let others ← normalizeDeclared part values rest
    return first ++ others

def undeclared (components : List (Component TypeNode)) (values : List (String × Value)) :
    List (String × Value) :=
  values.filter fun entry => (Component.byName? components entry.1).isNone

def normalizeShape (part : PartNormalizer) (shape : Shape TypeNode) (value : Value) :
    Except Error Value :=
  match shape, value with
  | .sequenceOf _ element, .sequenceOf items => do
    return .sequenceOf (← items.mapM (part element))
  | .sequence components, .sequence values => do
    let declared ← normalizeDeclared part values components
    return .sequence (declared ++ undeclared components values)
  | .choice alternatives, .choice name content =>
    match Alternative.byName? alternatives name with
    | none => .ok value
    | some alternative => do
      let content ← part alternative.type content
      return .choice name content
  | _, _ => .ok value

def normalizedWithin (module : TypeModule) : Nat → PartNormalizer
  | 0, _, value => .ok value
  | levels + 1, node, value =>
    match module.resolve node with
    | .error error => .error error
    | .ok resolved => normalizeShape (normalizedWithin module levels) resolved.shape value

def normalized (module : TypeModule) (node : TypeNode) (value : Value) : Except Error Value :=
  normalizedWithin module (value.depth + 1) node value

end Asn1Constraints.Value
