import Asn1Constraints.Plan.Basic
import Asn1Constraints.TypeModel.TypeTree
import Asn1Constraints.TypeModel.WellFormed

/-!
From a type to its plan. The tree of the type is walked depth first in
declaration order, and the check of a node follows the checks of its parts.
References leave no trace of their own: what they refer to is checked in their
place, as often as it is referred to. A node with id 0 has no check.
-/

namespace Asn1Constraints

/-- The rule a shape enforces on the value in its place. -/
def Shape.rule {Node : Type} : Shape Node → CheckRule
  | .integer bounds => .integerRange bounds
  | .real bounds => .realRange bounds
  | .boolean => .isBoolean
  | .null => .isNull
  | .enumerated items => .enumeratedValues (items.map (·.value))
  | .octetString size => .size size .bytes
  | .bitString size => .size size .bits
  | .ia5String size => .characterString size
  | .sequenceOf size _ => .size size .elements
  | .sequence components =>
    .mandatoryFields ((components.filter fun component => !component.optional).map (·.name))
      (components.map (·.name))
  | .choice alternatives => .singleAlternative (alternatives.map (·.name))

def ownCheck (id : ConstraintId) (path : FieldPath) (rule : CheckRule) : List Check :=
  if id = 0 then [] else [⟨id, path, rule⟩]

def Dangling.errorAt (module : String) (path : FieldPath) : Dangling → Error
  | .unknown target => .unknownType module target
  | .recursive target => .malformed (.recursiveReferenceAt path.text target)

namespace TypeTree

mutual

/-- The checks of a tree whose root is at `path`. -/
def checks (module : String) (path : FieldPath) : TypeTree → Except Error (List Check)
  | .dangling cause => .error (cause.errorAt module path)
  | .shaped id shape =>
    match partChecks module path shape with
    | .error error => .error error
    | .ok parts => .ok (parts ++ ownCheck id path shape.rule)

def partChecks (module : String) (path : FieldPath) :
    Shape Branch → Except Error (List Check)
  | .sequenceOf _ element => (element ()).checks module (path.push .element)
  | .sequence components => componentChecks module path components
  | .choice alternatives => alternativeChecks module path alternatives
  | _ => .ok []

def componentChecks (module : String) (path : FieldPath) :
    List (Component Branch) → Except Error (List Check)
  | [] => .ok []
  | ⟨name, _, type⟩ :: rest =>
    match (type ()).checks module (path.push (.component name)) with
    | .error error => .error error
    | .ok first => (componentChecks module path rest).map (first ++ ·)

def alternativeChecks (module : String) (path : FieldPath) :
    List (Alternative Branch) → Except Error (List Check)
  | [] => .ok []
  | ⟨name, type⟩ :: rest =>
    match (type ()).checks module (path.push (.alternative name)) with
    | .error error => .error error
    | .ok first => (alternativeChecks module path rest).map (first ++ ·)

end

end TypeTree

namespace TypeModule

/-- The plan of a node whose references are those of the module. -/
def planOf (module : TypeModule) (node : TypeNode) : Except Error ValidationPlan := do
  let checks ← (module.unfold node).checks module.name .root
  let resolved ← module.resolve node
  return ⟨"", resolved.id, checks⟩

/-- The plan of a type of a module that need not be well-formed. -/
def compileUnchecked (module : TypeModule) (typeName : String) :
    Except Error ValidationPlan := do
  let assignment ← module.require typeName
  let plan ← module.planOf assignment.type
  return { plan with typeName := assignment.name }

def compile (module : TypeModule) (typeName : String) : Except Error ValidationPlan := do
  module.validate
  module.compileUnchecked typeName

end TypeModule

/-- A well-formed module with the plan of each of its types. -/
structure CompiledModule where
  module : TypeModule
  plans : List (String × ValidationPlan)

namespace CompiledModule

def compilePlans (module : TypeModule) :
    List TypeAssignment → Except Error (List (String × ValidationPlan))
  | [] => .ok []
  | assignment :: rest => do
    let plan ← module.compileUnchecked assignment.name
    let plans ← compilePlans module rest
    return (assignment.name, plan) :: plans

def ofModule (module : TypeModule) : Except Error CompiledModule := do
  module.validate
  let plans ← compilePlans module module.types
  return ⟨module, plans⟩

def typeNames (compiled : CompiledModule) : List String := compiled.module.types.map (·.name)

def plan? (compiled : CompiledModule) (typeName : String) : Option ValidationPlan :=
  compiled.plans.lookup typeName

def requirePlan (compiled : CompiledModule) (typeName : String) :
    Except Error ValidationPlan :=
  match compiled.plan? typeName with
  | some plan => .ok plan
  | none => .error (.unknownType compiled.module.name typeName)

def typeNode (compiled : CompiledModule) (typeName : String) : Except Error TypeNode :=
  (compiled.module.require typeName).map (·.type)

end CompiledModule

end Asn1Constraints
