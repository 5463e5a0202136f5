import Asn1Constraints.TypeModel.Basic

/-!
A type with its references followed: the tree that plans, default instances and
random instances are built from. A reference that cannot be followed becomes a
dangling leaf, and it is up to the reader of the tree whether that leaf matters.

A few types that refer to each other twice each stand for a tree that is too
large to be held, so a branch grows only when it is asked for.
-/

namespace Asn1Constraints

inductive Dangling where
  /-- The target is not declared. -/
  | unknown (target : String)
  /-- The target is already being followed above this place. -/
  | recursive (target : String)

inductive TypeTree where
  | shaped (id : ConstraintId) (shape : Shape (Unit → TypeTree))
  | dangling (cause : Dangling)

/-- A tree that is still to grow. -/
abbrev Branch := Unit → TypeTree

/-! Put a tree in the place of every reference of a node. -/

mutual

def TypeNode.graft (follow : String → TypeTree) : TypeNode → TypeTree
  | .reference _ target => follow target
  | .shaped id shape => .shaped id (graftParts follow shape)

def graftParts (follow : String → TypeTree) : Shape TypeNode → Shape Branch
  | .integer bounds => .integer bounds
  | .real bounds => .real bounds
  | .boolean => .boolean
  | .null => .null
  | .enumerated items => .enumerated items
  | .octetString size => .octetString size
  | .bitString size => .bitString size
  | .ia5String size => .ia5String size
  | .sequenceOf size element => .sequenceOf size fun _ => element.graft follow
  | .sequence components => .sequence (graftComponents follow components)
  | .choice alternatives => .choice (graftAlternatives follow alternatives)

def graftComponents (follow : String → TypeTree) :
    List (Component TypeNode) → List (Component Branch)
  | [] => []
  | ⟨name, optional, type⟩ :: rest =>
    ⟨name, optional, fun _ => type.graft follow⟩ :: graftComponents follow rest

def graftAlternatives (follow : String → TypeTree) :
    List (Alternative TypeNode) → List (Alternative Branch)
  | [] => []
  | ⟨name, type⟩ :: rest =>
    ⟨name, fun _ => type.graft follow⟩ :: graftAlternatives follow rest

end

namespace TypeModule

/-- The tree behind a type name, inside the types that are being followed. The
budget is the number of types that are not; it runs out only when all are. -/
def follow (module : TypeModule) : Nat → List String → String → TypeTree
  | budget, expanding, target =>
    if expanding.contains target then .dangling (.recursive target)
    else
      match module.find? target with
      | none => .dangling (.unknown target)
      | some assignment =>
        match budget with
        | 0 => .dangling (.recursive target)
        | rest + 1 => assignment.type.graft (module.follow rest (target :: expanding))

def unfold (module : TypeModule) (node : TypeNode) : TypeTree :=
  node.graft (module.follow module.types.length [])

end TypeModule

end Asn1Constraints
