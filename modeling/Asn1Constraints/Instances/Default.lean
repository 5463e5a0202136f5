import Asn1Constraints.TypeModel.TypeTree
import Asn1Constraints.Value.Basic

/-!
The default instance of a type: numbers at their lower bound, strings and
collections at their least size, optional components left out, the first item
and the first alternative. Only what the instance contains is looked at, so a
dangling reference behind an optional component does not matter.
-/

namespace Asn1Constraints

def Dangling.error (module : String) : Dangling → Error
  | .unknown target => .unknownType module target
  | .recursive target => .malformed (.recursiveReference target)

/-- A size an instance can be built with. -/
def instanceLength (size : UInt64) : Except Error Nat :=
  if instanceLimit < size then .error (.malformed (.oversized size)) else .ok size.toNat

namespace TypeTree

mutual

def defaultInstance (module : String) : TypeTree → Except Error Value
  | .dangling cause => .error (cause.error module)
  | .shaped _ shape => defaultOfShape module shape

def defaultOfShape (module : String) : Shape Branch → Except Error Value
  | .integer bounds => .ok (.integer bounds.min)
  | .real bounds => .ok (.real bounds.min)
  | .boolean => .ok (.boolean false)
  | .null => .ok .null
  | .enumerated [] => .error (.malformed .noItems)
  | .enumerated (item :: _) => .ok (.enumerated item.value)
  | .octetString size =>
    (instanceLength size.minSize).map fun length => .octetString (List.replicate length 0)
  | .bitString size =>
    (instanceLength size.minSize).map fun length => .bitString (List.replicate length false)
  | .ia5String size =>
    (instanceLength size.minSize).map fun length =>
      .ia5String (String.ofList (List.replicate length ' '))
  | .sequenceOf size element =>
    match instanceLength size.minSize with
    | .error error => .error error
    | .ok 0 => .ok (.sequenceOf [])
    | .ok (length + 1) =>
      ((element ()).defaultInstance module).map fun item =>
        .sequenceOf (List.replicate (length + 1) item)
  | .sequence components => (defaultComponents module components).map .sequence
  | .choice [] => .error (.malformed .noAlternatives)
  | .choice (⟨name, type⟩ :: _) => ((type ()).defaultInstance module).map (.choice name)

def defaultComponents (module : String) :
    List (Component Branch) → Except Error (List (String × Value))
  | [] => .ok []
  | ⟨_, true, _⟩ :: rest => defaultComponents module rest
  | ⟨name, false, type⟩ :: rest =>
    match (type ()).defaultInstance module with
    | .error error => .error error
    | .ok value => (defaultComponents module rest).map ((name, value) :: ·)

end

end TypeTree

namespace TypeModule

def defaultInstance (module : TypeModule) (node : TypeNode) : Except Error Value :=
  (module.unfold node).defaultInstance module.name

def defaultOfType (module : TypeModule) (typeName : String) : Except Error Value := do
  let assignment ← module.require typeName
  module.defaultInstance assignment.type

end TypeModule

end Asn1Constraints
