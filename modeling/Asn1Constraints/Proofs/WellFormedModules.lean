import Asn1Constraints.Proofs.NodeChecks
import Asn1Constraints.Proofs.ReferenceOrder
import Mathlib

/-!
Well-formed modules, said of the module as a whole, and the check that accepts
exactly these. Everything that is built from an accepted module rests on this
one equivalence.
-/

namespace Asn1Constraints

open Relation

namespace TypeModule

/-- Somewhere in the type `user` stands a reference to `used`. -/
def Uses (module : TypeModule) (user used : String) : Prop :=
  ∃ assignment ∈ module.types, assignment.name = user ∧
    ∃ id, TypeNode.reference id used ∈ assignment.type.nodes

structure WellFormed (module : TypeModule) : Prop where
  distinctNames : (module.types.map (·.name)).Nodup
  sound : ∀ node ∈ module.nodes, node.Sound module
  distinctIds : ((module.nodes.map (·.id)).filter (· ≠ 0)).Nodup
  acyclic : ∀ name, ¬ TransGen module.Uses name name

theorem mem_usersOf_iff (module : TypeModule) (used user : String) :
    user ∈ module.usersOf used ↔ module.Uses user used := by
  simp only [usersOf, NameSet.mem_ofList, List.mem_map, List.mem_filter, List.contains_iff_mem,
    TypeNode.mem_references_iff, Uses]
  constructor
  · rintro ⟨assignment, ⟨declared, referred⟩, named⟩
    exact ⟨assignment, declared, named, referred⟩
  · rintro ⟨assignment, declared, named, referred⟩
    exact ⟨assignment, ⟨declared, referred⟩, named⟩

theorem mem_mentionedNames_iff (module : TypeModule) (name : String) :
    name ∈ module.mentionedNames ↔
      (∃ assignment ∈ module.types, assignment.name = name) ∨ ∃ user, module.Uses user name := by
  simp only [mentionedNames, List.mem_flatMap, List.mem_cons, TypeNode.mem_references_iff, Uses]
  constructor
  · rintro ⟨assignment, declared, rfl | referred⟩
    · exact Or.inl ⟨assignment, declared, rfl⟩
    · exact Or.inr ⟨_, assignment, declared, rfl, referred⟩
  · rintro (⟨assignment, declared, rfl⟩ | ⟨_, assignment, declared, _, referred⟩)
    · exact ⟨assignment, declared, Or.inl rfl⟩
    · exact ⟨assignment, declared, Or.inr referred⟩

theorem referenceGraph_names (module : TypeModule) :
    module.referenceGraph.names = NameSet.ofList module.mentionedNames := by
  simp [referenceGraph, ReferenceGraph.names, Function.comp_def]

theorem referenceGraph_edge_iff (module : TypeModule) (used user : String) :
    module.referenceGraph.Edge used user ↔ module.Uses user used := by
  simp only [ReferenceGraph.Edge, referenceGraph, List.mem_map, Prod.mk.injEq, NameSet.mem_ofList]
  constructor
  · rintro ⟨_, ⟨name, _, rfl, rfl⟩, member⟩
    exact (module.mem_usersOf_iff name user).mp member
  · intro uses
    exact ⟨_, ⟨used, (module.mem_mentionedNames_iff used).mpr (Or.inr ⟨user, uses⟩), rfl, rfl⟩,
      (module.mem_usersOf_iff used user).mpr uses⟩

/-- An edge leads from what is used to its user. -/
theorem referenceGraph_edge_eq (module : TypeModule) :
    module.referenceGraph.Edge = Function.swap module.Uses := by
  funext used user
  exact propext (module.referenceGraph_edge_iff used user)

theorem referenceGraph_sound (module : TypeModule) : module.referenceGraph.Sound where
  ascending := module.referenceGraph_names ▸ NameSet.ofList_ascending _
  once := by
    intro entry member
    obtain ⟨name, _, rfl⟩ := List.mem_map.mp member
    exact NameSet.nodup_of_ascending (NameSet.ofList_ascending _)
  closed := by
    intro entry member user inUsers
    obtain ⟨name, _, rfl⟩ := List.mem_map.mp member
    obtain ⟨assignment, declared, named, _⟩ := (module.mem_usersOf_iff name user).mp inUsers
    rw [referenceGraph_names, NameSet.mem_ofList, mem_mentionedNames_iff]
    exact Or.inl ⟨assignment, declared, named⟩

theorem checkNames_ok_iff (module : TypeModule) :
    module.checkNames = .ok () ↔ (module.types.map (·.name)).Nodup := by
  have distinct := repeatedName?_eq_none_iff [] (module.types.map (·.name))
  unfold checkNames
  cases found : repeatedName? [] (module.types.map (·.name)) <;> simpa [found] using distinct

theorem ordered_iff_acyclic (module : TypeModule) :
    (∃ names, module.referenceGraph.dependencyOrder = .ordered names) ↔
      ∀ name, ¬ TransGen module.Uses name name := by
  have ordered := ReferenceGraph.ordered_iff_acyclic module.referenceGraph_sound
  simp only [referenceGraph_edge_eq, transGen_swap] at ordered
  exact ordered

theorem checkRecursion_ok_iff (module : TypeModule) :
    module.checkRecursion = .ok () ↔ ∀ name, ¬ TransGen module.Uses name name := by
  rw [← ordered_iff_acyclic, checkRecursion]
  cases module.referenceGraph.dependencyOrder <;> simp

theorem checkTypes_enters (module : TypeModule) (types : List TypeAssignment)
    (holders : Holders) :
    Enters (∀ assignment ∈ types, assignment.type.AllSound module)
      (types.flatMap (·.type.ids)) holders (module.checkTypes holders types) := by
  induction types generalizing holders with
  | nil => simpa [checkTypes] using Enters.nothing holders
  | cons assignment rest ih =>
      have first := assignment.type.check_enters module assignment.name holders
      rw [List.forall_mem_cons]
      unfold checkTypes
      cases outcome : assignment.type.check module assignment.name holders with
      | error cause => exact (outcome ▸ first).stopped
      | ok after => exact (outcome ▸ first).continued (ih after)

theorem checkTypes_ok_iff (module : TypeModule) :
    (∃ holders, module.checkTypes [] module.types = .ok holders) ↔
      (∀ node ∈ module.nodes, node.Sound module) ∧
        ((module.nodes.map (·.id)).filter (· ≠ 0)).Nodup := by
  have entered := module.checkTypes_enters module.types []
  have ids : module.types.flatMap (·.type.ids) =
      (module.nodes.map (·.id)).filter (· ≠ 0) := by
    rw [nodes, List.map_flatMap, List.filter_flatMap]
    rfl
  have all : (∀ assignment ∈ module.types, assignment.type.AllSound module) ↔
      ∀ node ∈ module.nodes, node.Sound module := by
    rw [nodes, List.forall_mem_flatMap]
    rfl
  rw [ids, all] at entered
  cases outcome : module.checkTypes [] module.types with
  | ok holders =>
      rw [outcome] at entered
      exact iff_of_true ⟨holders, rfl⟩ ⟨entered.1.1, entered.1.2.1⟩
  | error cause =>
      rw [outcome] at entered
      refine iff_of_false (by simp) fun accepted => entered ⟨accepted.1, accepted.2, ?_⟩
      simp [Holders.ids]

theorem validate_ok_iff_checks (module : TypeModule) :
    module.validate = .ok () ↔
      module.checkNames = .ok () ∧
        (∃ holders, module.checkTypes [] module.types = .ok holders) ∧
          module.checkRecursion = .ok () := by
  unfold validate
  cases module.checkNames with
  | error cause => simp [bind, Except.bind]
  | ok =>
      cases module.checkTypes [] module.types <;> simp [bind, Except.bind]

theorem wellFormed_of_validate {module : TypeModule} (accepted : module.validate = .ok ()) :
    module.WellFormed := by
  obtain ⟨names, types, recursion⟩ := module.validate_ok_iff_checks.mp accepted
  obtain ⟨sound, ids⟩ := module.checkTypes_ok_iff.mp types
  exact ⟨module.checkNames_ok_iff.mp names, sound, ids, module.checkRecursion_ok_iff.mp recursion⟩

theorem validate_of_wellFormed {module : TypeModule} (wellFormed : module.WellFormed) :
    module.validate = .ok () :=
  module.validate_ok_iff_checks.mpr ⟨module.checkNames_ok_iff.mpr wellFormed.distinctNames,
    module.checkTypes_ok_iff.mpr ⟨wellFormed.sound, wellFormed.distinctIds⟩,
    module.checkRecursion_ok_iff.mpr wellFormed.acyclic⟩

/-- The check accepts the well-formed modules and no others. -/
theorem validate_accepts_iff (module : TypeModule) :
    module.validate = .ok () ↔ module.WellFormed :=
  ⟨wellFormed_of_validate, validate_of_wellFormed⟩

end TypeModule

end Asn1Constraints
