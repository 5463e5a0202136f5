import Asn1Constraints.Proofs.ReferenceChains
import Asn1Constraints.Proofs.WellFormedModules
import Asn1Constraints.TypeModel.TypeTree
import Mathlib

/-!
References followed in a module without cycles. No name comes up again while it
is being followed, so the guards against recursion and the budgets never
matter: a type unfolds as if each reference were replaced by its target, and
what holds of parts and of targets holds of every type.
-/

namespace Asn1Constraints

open Relation

namespace Shape

variable {Node Part : Type}

/-- The same shape with other parts. -/
def map (f : Node → Part) : Shape Node → Shape Part
  | .integer bounds => .integer bounds
  | .real bounds => .real bounds
  | .boolean => .boolean
  | .null => .null
  | .enumerated items => .enumerated items
  | .octetString size => .octetString size
  | .bitString size => .bitString size
  | .ia5String size => .ia5String size
  | .sequenceOf size element => .sequenceOf size (f element)
  | .sequence components =>
    .sequence (components.map fun component =>
      ⟨component.name, component.optional, f component.type⟩)
  | .choice alternatives =>
    .choice (alternatives.map fun alternative => ⟨alternative.name, f alternative.type⟩)

theorem map_congr (f g : Node → Part) (shape : Shape Node)
    (same : ∀ part ∈ shape.parts, f part = g part) : shape.map f = shape.map g := by
  cases shape <;> simp_all [map, parts]

end Shape

theorem graftComponents_eq_map (follow : String → TypeTree)
    (components : List (Component TypeNode)) :
    graftComponents follow components = components.map fun component =>
      ⟨component.name, component.optional, fun _ => component.type.graft follow⟩ := by
  induction components with
  | nil => rfl
  | cons component rest ih => rw [graftComponents, ih, List.map_cons]

theorem graftAlternatives_eq_map (follow : String → TypeTree)
    (alternatives : List (Alternative TypeNode)) :
    graftAlternatives follow alternatives = alternatives.map fun alternative =>
      ⟨alternative.name, fun _ => alternative.type.graft follow⟩ := by
  induction alternatives with
  | nil => rfl
  | cons alternative rest ih => rw [graftAlternatives, ih, List.map_cons]

theorem graftParts_eq_map (follow : String → TypeTree) (shape : Shape TypeNode) :
    graftParts follow shape = shape.map fun part _ => part.graft follow := by
  cases shape <;>
    simp [graftParts, Shape.map, graftComponents_eq_map, graftAlternatives_eq_map]

theorem TypeNode.graft_congr (follow other : String → TypeTree) (node : TypeNode)
    (same : ∀ target ∈ node.references, follow target = other target) :
    node.graft follow = node.graft other := by
  induction node using TypeNode.partsInduction with
  | reference id target => exact same target (by simp [TypeNode.references])
  | shaped id shape ih =>
      rw [TypeNode.references_shaped] at same
      rw [TypeNode.graft, TypeNode.graft, graftParts_eq_map, graftParts_eq_map]
      congr 1
      apply Shape.map_congr
      intro part isPart
      funext _
      exact ih part isPart fun target member =>
        same target (List.mem_flatMap.mpr ⟨part, isPart, member⟩)

/-- Inside one type: what holds of its references and passes from parts to shapes. -/
theorem TypeNode.withinType {motive : TypeNode → Prop} {module : TypeModule} (node : TypeNode)
    (sound : node.AllSound module)
    (shaped : ∀ id shape, (TypeNode.shaped id shape).AllSound module →
      (∀ part ∈ shape.parts, motive part) → motive (.shaped id shape))
    (references : ∀ id target, TypeNode.reference id target ∈ node.nodes →
      motive (.reference id target)) : motive node := by
  induction node using TypeNode.partsInduction with
  | reference id target => exact references id target (TypeNode.self_mem_nodes _)
  | shaped id shape ih =>
      apply shaped id shape sound
      intro part isPart
      have below := TypeNode.nodes_trans part _ (TypeNode.part_mem_nodes id shape part isPart)
      exact ih part isPart (fun inner member => sound inner (below inner member))
        fun other target member => references other target (below _ member)

namespace TypeModule

/-- The names being followed on the way to a node: each once, all declared, and
each of them leads to whatever the node refers to. -/
structure Following (module : TypeModule) (stack : List String) (node : TypeNode) : Prop where
  unique : stack.Nodup
  declared : ∀ name ∈ stack, name ∈ module.types.map (·.name)
  leads : ∀ name ∈ stack, ∀ target ∈ node.references, TransGen module.Uses name target

namespace Following

variable {module : TypeModule} {stack : List String} {node : TypeNode}

theorem nothing (module : TypeModule) (node : TypeNode) : module.Following [] node :=
  ⟨List.nodup_nil, by simp, by simp⟩

theorem length_le (following : module.Following stack node) :
    stack.length ≤ module.types.length := by
  simpa using (following.unique.subperm following.declared).length_le

theorem fresh (acyclic : ∀ name, ¬ TransGen module.Uses name name)
    (following : module.Following stack node) {target : String}
    (referred : target ∈ node.references) : target ∉ stack :=
  fun member => acyclic target (following.leads target member target referred)

theorem enter (acyclic : ∀ name, ¬ TransGen module.Uses name name)
    (following : module.Following stack node) {target : String}
    (referred : target ∈ node.references) {assignment : TypeAssignment}
    (found : module.find? target = some assignment) :
    module.Following (target :: stack) assignment.type := by
  obtain ⟨declared, named⟩ := declared_of_find? found
  have uses : ∀ other ∈ assignment.type.references, module.Uses target other :=
    fun other member =>
      ⟨assignment, declared, named, (assignment.type.mem_references_iff other).mp member⟩
  refine ⟨List.nodup_cons.mpr ⟨following.fresh acyclic referred, following.unique⟩, ?_, ?_⟩
  · exact List.forall_mem_cons.mpr ⟨named ▸ List.mem_map_of_mem declared, following.declared⟩
  · intro name member other further
    rcases List.mem_cons.mp member with same | above
    · exact same ▸ TransGen.single (uses other further)
    · exact (following.leads name above target referred).tail (uses other further)

end Following

section Acyclic

variable {module : TypeModule} (acyclic : ∀ name, ¬ TransGen module.Uses name name)

include acyclic

/-- Where a reference is followed there is budget left to do so. -/
theorem follow_found (budget : Nat) (stack : List String) (node : TypeNode)
    (following : module.Following stack node)
    (enough : module.types.length ≤ budget + stack.length)
    (target : String) (referred : target ∈ node.references) (assignment : TypeAssignment)
    (found : module.find? target = some assignment) :
    ∃ rest, budget = rest + 1 ∧ module.Following (target :: stack) assignment.type ∧
      module.follow budget stack target =
        assignment.type.graft (module.follow rest (target :: stack)) := by
  have entered := following.enter acyclic referred found
  have bound := entered.length_le
  rw [List.length_cons] at bound
  obtain ⟨rest, rfl⟩ : ∃ rest, budget = rest + 1 := ⟨budget - 1, by omega⟩
  refine ⟨rest, rfl, entered, ?_⟩
  simp [follow, following.fresh acyclic referred, found]

theorem follow_unknown (budget : Nat) (stack : List String) (node : TypeNode)
    (following : module.Following stack node)
    (target : String) (referred : target ∈ node.references)
    (unknown : module.find? target = none) :
    module.follow budget stack target = .dangling (.unknown target) := by
  unfold follow
  simp [following.fresh acyclic referred, unknown]

/-- Neither the names being followed nor the budget show in the tree. -/
theorem graft_follow_eq (budget other : Nat) (stack names : List String) (node : TypeNode)
    (following : module.Following stack node) (also : module.Following names node)
    (enough : module.types.length ≤ budget + stack.length)
    (plenty : module.types.length ≤ other + names.length) :
    node.graft (module.follow budget stack) = node.graft (module.follow other names) := by
  induction budget using Nat.strongRecOn generalizing other stack names node with
  | ind budget ih =>
      apply TypeNode.graft_congr
      intro target referred
      cases found : module.find? target with
      | none =>
          rw [follow_unknown acyclic budget stack node following target referred found,
            follow_unknown acyclic other names node also target referred found]
      | some assignment =>
          obtain ⟨rest, rfl, entered, tree⟩ :=
            follow_found acyclic budget stack node following enough target referred assignment found
          -- Both ways enter the target with one name more, and the budgets fall together.
          obtain ⟨others, rfl, alsoEntered, same⟩ :=
            follow_found acyclic other names node also plenty target referred assignment found
          rw [tree, same]
          apply ih rest (by omega) others _ _ _ entered alsoEntered
          · simp only [List.length_cons]
            omega
          · simp only [List.length_cons]
            omega

/-- A reference unfolds to the tree of its target. -/
theorem unfold_reference (id : ConstraintId) (target : String) (assignment : TypeAssignment)
    (found : module.find? target = some assignment) :
    module.unfold (.reference id target) = module.unfold assignment.type := by
  have referred : target ∈ (TypeNode.reference id target).references := by
    simp [TypeNode.references]
  obtain ⟨rest, budget, entered, tree⟩ := follow_found acyclic module.types.length []
    (.reference id target) (Following.nothing module _) (by simp) target referred assignment found
  calc module.unfold (.reference id target)
      = module.follow module.types.length [] target := rfl
    _ = assignment.type.graft (module.follow rest [target]) := tree
    _ = module.unfold assignment.type :=
        graft_follow_eq acyclic rest module.types.length [target] [] assignment.type entered
          (Following.nothing module _) (by simp [budget]) (by simp)

end Acyclic

/-- A shape unfolds part by part, whatever the module is like. -/
theorem unfold_shaped (module : TypeModule) (id : ConstraintId) (shape : Shape TypeNode) :
    module.unfold (.shaped id shape) = .shaped id (shape.map fun part _ => module.unfold part) := by
  rw [unfold, TypeNode.graft, graftParts_eq_map]
  rfl

namespace WellFormed

variable {module : TypeModule} (wellFormed : module.WellFormed)

include wellFormed

theorem allSound (assignment : TypeAssignment) (declared : assignment ∈ module.types) :
    assignment.type.AllSound module :=
  fun node member => wellFormed.sound node (List.mem_flatMap.mpr ⟨assignment, declared, member⟩)

theorem target_declared {id : ConstraintId} {target : String} {node : TypeNode}
    (sound : node.AllSound module) (member : TypeNode.reference id target ∈ node.nodes) :
    ∃ assignment, module.find? target = some assignment ∧ assignment.type.AllSound module := by
  obtain ⟨_, declared⟩ := sound _ member
  obtain ⟨assignment, found⟩ :=
    Option.isSome_iff_exists.mp ((module.find?_isSome_iff target).mpr declared)
  exact ⟨assignment, found, wellFormed.allSound assignment (declared_of_find? found).1⟩

/-- To show something of the nodes of a well-formed module, show it of a
reference from its target and of a shape from its parts. -/
theorem induction {motive : TypeNode → Prop}
    (reference : ∀ id target assignment, module.find? target = some assignment →
      motive assignment.type → motive (.reference id target))
    (shaped : ∀ id shape, (TypeNode.shaped id shape).AllSound module →
      (∀ part ∈ shape.parts, motive part) → motive (.shaped id shape))
    (node : TypeNode) (sound : node.AllSound module) : motive node := by
  -- From type to type the induction is on the names left to follow.
  have following : ∀ budget stack (node : TypeNode), node.AllSound module →
      module.Following stack node → module.types.length ≤ budget + stack.length →
      motive node := by
    intro budget
    induction budget using Nat.strongRecOn with
    | ind budget ih =>
        intro stack node sound following enough
        apply node.withinType sound shaped
        intro id target member
        obtain ⟨assignment, found, targetSound⟩ := wellFormed.target_declared sound member
        obtain ⟨rest, rfl, entered, _⟩ := follow_found wellFormed.acyclic budget stack node following
          enough target ((node.mem_references_iff target).mpr ⟨id, member⟩) assignment found
        refine reference id target assignment found (ih rest (by omega) _ _ targetSound entered ?_)
        simp only [List.length_cons]
        omega
  exact following module.types.length [] node sound (Following.nothing module node) (by simp)

/-- The same for the type of an assignment, told of each shape that it is a
node of the module. -/
theorem nodeInduction {motive : TypeNode → Prop}
    (reference : ∀ id target assignment, module.find? target = some assignment →
      motive assignment.type → motive (.reference id target))
    (shaped : ∀ id shape, TypeNode.shaped id shape ∈ module.nodes → shape.Sound →
      (∀ part ∈ shape.parts, motive part) → motive (.shaped id shape))
    (assignment : TypeAssignment) (declared : assignment ∈ module.types) :
    motive assignment.type := by
  have everywhere : assignment.type ∈ module.nodes → motive assignment.type := by
    apply wellFormed.induction (motive := fun node => node ∈ module.nodes → motive node) ?_ ?_ _
      (wellFormed.allSound assignment declared)
    · intro id target other found ih _
      exact reference id target other found (ih (type_mem_nodes (declared_of_find? found).1))
    · intro id shape sound ih member
      refine shaped id shape member (sound _ (TypeNode.self_mem_nodes _)).2 fun part isPart => ?_
      exact ih part isPart
        (nodes_closed member _ (TypeNode.part_mem_nodes id shape part isPart))
  exact everywhere (type_mem_nodes declared)

/-- References of a well-formed module lead to a shape. -/
theorem resolve_ok (node : TypeNode) (sound : node.AllSound module) :
    ∃ resolved, module.resolve node = .ok resolved := by
  apply wellFormed.induction ?_ ?_ node sound
  · intro id target assignment found ih
    rwa [resolve_reference found]
  · intro id shape _ _
    exact ⟨⟨id, shape⟩, rfl⟩

end WellFormed

end TypeModule

end Asn1Constraints
