import Asn1Constraints.TypeModel.Basic
import Mathlib

/-!
The nodes of a type and of a module, outermost first, and the parts directly
below a shape. Whatever is read off a type node by node follows the parts, so
one induction serves every kind; a reference is a leaf here, its target is a
type of its own.
-/

namespace Asn1Constraints

/-- What stands directly below a shape, in declaration order. -/
def Shape.parts {Node : Type} : Shape Node → List Node
  | .sequenceOf _ element => [element]
  | .sequence components => components.map (·.type)
  | .choice alternatives => alternatives.map (·.type)
  | _ => []

namespace TypeNode

/-- To show something of every node, show it of references, and of a shape from
its parts. -/
theorem partsInduction {motive : TypeNode → Prop}
    (reference : ∀ id target, motive (.reference id target))
    (shaped : ∀ id shape, (∀ part ∈ shape.parts, motive part) → motive (.shaped id shape))
    (node : TypeNode) : motive node := by
  apply @TypeNode.rec motive (fun shape => ∀ part ∈ shape.parts, motive part)
    (fun components => ∀ component ∈ components, motive component.type)
    (fun alternatives => ∀ alternative ∈ alternatives, motive alternative.type)
    (fun component => motive component.type) (fun alternative => motive alternative.type)
    shaped reference
  all_goals simp +contextual [Shape.parts]

mutual

/-- A node and everything below it. -/
def nodes : TypeNode → List TypeNode
  | .reference id target => [.reference id target]
  | .shaped id (.sequenceOf size element) => .shaped id (.sequenceOf size element) :: element.nodes
  | .shaped id (.sequence components) =>
    .shaped id (.sequence components) :: componentNodes components
  | .shaped id (.choice alternatives) =>
    .shaped id (.choice alternatives) :: alternativeNodes alternatives
  | .shaped id shape => [.shaped id shape]

def componentNodes : List (Component TypeNode) → List TypeNode
  | [] => []
  | ⟨_, _, type⟩ :: rest => type.nodes ++ componentNodes rest

def alternativeNodes : List (Alternative TypeNode) → List TypeNode
  | [] => []
  | ⟨_, type⟩ :: rest => type.nodes ++ alternativeNodes rest

end

theorem componentNodes_flatMap (components : List (Component TypeNode)) :
    componentNodes components = (components.map (·.type)).flatMap nodes := by
  induction components with
  | nil => rfl
  | cons component rest ih => simp [componentNodes, ih]

theorem alternativeNodes_flatMap (alternatives : List (Alternative TypeNode)) :
    alternativeNodes alternatives = (alternatives.map (·.type)).flatMap nodes := by
  induction alternatives with
  | nil => rfl
  | cons alternative rest ih => simp [alternativeNodes, ih]

theorem nodes_reference (id : ConstraintId) (target : String) :
    (TypeNode.reference id target).nodes = [.reference id target] := by
  simp [nodes]

theorem nodes_shaped (id : ConstraintId) (shape : Shape TypeNode) :
    (TypeNode.shaped id shape).nodes = .shaped id shape :: shape.parts.flatMap nodes := by
  cases shape <;>
    simp [nodes, Shape.parts, componentNodes_flatMap, alternativeNodes_flatMap]

theorem componentReferences_flatMap (components : List (Component TypeNode)) :
    componentReferences components = (components.map (·.type)).flatMap references := by
  induction components with
  | nil => rfl
  | cons component rest ih => simp [componentReferences, ih]

theorem alternativeReferences_flatMap (alternatives : List (Alternative TypeNode)) :
    alternativeReferences alternatives = (alternatives.map (·.type)).flatMap references := by
  induction alternatives with
  | nil => rfl
  | cons alternative rest ih => simp [alternativeReferences, ih]

theorem references_shaped (id : ConstraintId) (shape : Shape TypeNode) :
    (TypeNode.shaped id shape).references = shape.parts.flatMap references := by
  cases shape <;>
    simp [references, Shape.parts, componentReferences_flatMap, alternativeReferences_flatMap]

theorem self_mem_nodes (node : TypeNode) : node ∈ node.nodes := by
  cases node <;> simp [nodes_reference, nodes_shaped]

theorem nodes_trans (inner outer : TypeNode) (below : inner ∈ outer.nodes) :
    ∀ node ∈ inner.nodes, node ∈ outer.nodes := by
  induction outer using partsInduction with
  | reference id target =>
      obtain rfl : inner = .reference id target := by simpa [nodes_reference] using below
      exact fun _ member => member
  | shaped id shape ih =>
      rw [nodes_shaped] at below ⊢
      rcases List.mem_cons.mp below with same | deeper
      · subst inner
        rw [nodes_shaped]
        exact fun _ member => member
      · obtain ⟨part, isPart, inPart⟩ := List.mem_flatMap.mp deeper
        intro node member
        exact List.mem_cons_of_mem _
          (List.mem_flatMap.mpr ⟨part, isPart, ih part isPart inPart node member⟩)

theorem part_mem_nodes (id : ConstraintId) (shape : Shape TypeNode) (part : TypeNode)
    (isPart : part ∈ shape.parts) : part ∈ (TypeNode.shaped id shape).nodes := by
  rw [nodes_shaped]
  exact List.mem_cons_of_mem _ (List.mem_flatMap.mpr ⟨part, isPart, part.self_mem_nodes⟩)

/-- The referenced names are the targets of the reference nodes. -/
theorem mem_references_iff (node : TypeNode) (target : String) :
    target ∈ node.references ↔ ∃ id, TypeNode.reference id target ∈ node.nodes := by
  induction node using partsInduction with
  | reference id other =>
      simp [references, nodes_reference]
  | shaped id shape ih =>
      rw [references_shaped, nodes_shaped]
      simp only [List.mem_flatMap, List.mem_cons, reduceCtorEq, false_or]
      constructor
      · rintro ⟨part, isPart, referred⟩
        obtain ⟨id, member⟩ := (ih part isPart).mp referred
        exact ⟨id, part, isPart, member⟩
      · rintro ⟨id, part, isPart, member⟩
        exact ⟨part, isPart, (ih part isPart).mpr ⟨id, member⟩⟩

end TypeNode

namespace TypeModule

/-- Every node of every type, in declaration order. -/
def nodes (module : TypeModule) : List TypeNode :=
  module.types.flatMap (·.type.nodes)

theorem type_mem_nodes {module : TypeModule} {assignment : TypeAssignment}
    (declared : assignment ∈ module.types) : assignment.type ∈ module.nodes :=
  List.mem_flatMap.mpr ⟨assignment, declared, assignment.type.self_mem_nodes⟩

theorem nodes_closed {module : TypeModule} {outer : TypeNode} (member : outer ∈ module.nodes) :
    ∀ inner ∈ outer.nodes, inner ∈ module.nodes := by
  obtain ⟨assignment, declared, below⟩ := List.mem_flatMap.mp member
  exact fun inner deeper =>
    List.mem_flatMap.mpr ⟨assignment, declared, TypeNode.nodes_trans outer _ below inner deeper⟩

theorem declared_of_find? {module : TypeModule} {name : String} {assignment : TypeAssignment}
    (found : module.find? name = some assignment) :
    assignment ∈ module.types ∧ assignment.name = name :=
  ⟨List.mem_of_find?_eq_some found, by simpa using List.find?_some found⟩

theorem find?_isSome_iff (module : TypeModule) (name : String) :
    (module.find? name).isSome ↔ ∃ assignment ∈ module.types, assignment.name = name := by
  simp [find?]

theorem find?_of_mem {module : TypeModule} (unique : (module.types.map (·.name)).Nodup)
    {assignment : TypeAssignment} (declared : assignment ∈ module.types) :
    module.find? assignment.name = some assignment := by
  obtain ⟨found, look⟩ := Option.isSome_iff_exists.mp
    ((module.find?_isSome_iff assignment.name).mpr ⟨assignment, declared, rfl⟩)
  obtain ⟨other, same⟩ := declared_of_find? look
  rw [look, List.inj_on_of_nodup_map unique other declared same]

end TypeModule

end Asn1Constraints
