import Asn1Constraints.Proofs.LeastOrders
import Asn1Constraints.Proofs.NameBytes
import Asn1Constraints.Proofs.WellFormedModules
import Mathlib

/-!
What the reference report says of a module, well-formed or not. Points are the
declared and the referenced names; a name that is declared twice or not at all
is one point like any other. The order in which types are declared plays no
part in the report.
-/

namespace Asn1Constraints

open Relation

theorem ncard_eq_length {α : Type} {members : List α} (once : members.Nodup) {set : Set α}
    (same : ∀ member, member ∈ set ↔ member ∈ members) : set.ncard = members.length := by
  classical
  obtain rfl : set = ↑members.toFinset := by
    ext member
    rw [same, Finset.mem_coe, List.mem_toFinset]
  rw [Set.ncard_coe_finset, List.toFinset_card_of_nodup once]

namespace ReferenceGraph

variable {graph : ReferenceGraph} (sound : graph.Sound)

include sound

/-- Every pair of a name and a user of it is counted once. -/
theorem edges_eq_ncard :
    graph.report.edges = {pair : String × String | graph.Edge pair.2 pair.1}.ncard := by
  have paired : graph.report.edges =
      (graph.users.flatMap fun entry => entry.2.map fun user => (user, entry.1)).length := by
    simp [report, List.length_flatMap]
  rw [paired]
  refine (ncard_eq_length ?_ fun pair => ?_).symm
  -- Pairs of one entry differ in the user, pairs of two entries in what they use.
  · rw [List.nodup_flatMap]
    constructor
    · intro entry member
      exact (sound.once entry member).map fun _ _ same => (Prod.mk.inj same).1
    · have keys : (graph.users.map (·.1)).Pairwise (· ≠ ·) := sound.unique
      rw [List.pairwise_map] at keys
      refine keys.imp fun different => ?_
      intro pair first second
      obtain ⟨_, _, rfl⟩ := List.mem_map.mp first
      obtain ⟨_, _, same⟩ := List.mem_map.mp second
      exact different (Prod.mk.inj same).2.symm
  · obtain ⟨user, used⟩ := pair
    simp [Edge]

end ReferenceGraph

namespace TypeModule

/-- The name is declared or referenced. -/
def Mentions (module : TypeModule) (name : String) : Prop :=
  (∃ assignment ∈ module.types, assignment.name = name) ∨ ∃ user, module.Uses user name

/-- The first arrangement of all names, where names are compared by their bytes. -/
structure FirstArrangement (module : TypeModule) (names : List String) : Prop where
  arranges : Arranges module.Mentions module.Uses names
  least : ∀ other, Arranges module.Mentions module.Uses other →
    names = other ∨ List.Lex BytesBefore names other

/-- The names that a cycle holds up, ascending: following references from them
one comes to a name that leads back to itself. -/
structure HeldUp (module : TypeModule) (names : List String) : Prop where
  ascending : names.Pairwise BytesBefore
  members : ∀ name, name ∈ names ↔
    ∃ looping, ReflTransGen module.Uses name looping ∧ TransGen module.Uses looping looping

/-- The report has the sizes of the graph and either its first arrangement or the
names without one. -/
structure Described (module : TypeModule) (report : ReferenceReport) : Prop where
  nodes : report.nodes = {name | module.Mentions name}.ncard
  edges : report.edges = {pair : String × String | module.Uses pair.1 pair.2}.ncard
  acyclic : (∃ names, report.order = .ordered names) ↔ ∀ name, ¬ TransGen module.Uses name name
  ordered : ∀ names, report.order = .ordered names → module.FirstArrangement names
  cyclic : ∀ names, report.order = .cyclic names → module.HeldUp names

section

variable (module : TypeModule)

theorem mem_referenceGraph_names (name : String) :
    name ∈ module.referenceGraph.names ↔ module.Mentions name := by
  rw [referenceGraph_names, NameSet.mem_ofList, mem_mentionedNames_iff, Mentions]

theorem arranges_iff (names : List String) :
    Arranges (· ∈ module.referenceGraph.names)
        (fun user used => module.referenceGraph.Edge used user) names ↔
      Arranges module.Mentions module.Uses names := by
  have points : (· ∈ module.referenceGraph.names) = module.Mentions := by
    funext name
    exact propext (module.mem_referenceGraph_names name)
  rw [points, referenceGraph_edge_eq]

theorem entangled_iff (name : String) :
    module.referenceGraph.Entangled name ↔
      ∃ looping, ReflTransGen module.Uses name looping ∧ TransGen module.Uses looping looping := by
  simp only [ReferenceGraph.Entangled, referenceGraph_edge_eq, transGen_swap, reflTransGen_swap,
    and_comm]

/-- Which types are declared decides on the graph, not where they stand. -/
theorem referenceGraph_perm {types : List TypeAssignment} (shuffled : types.Perm module.types) :
    { module with types }.referenceGraph = module.referenceGraph := by
  have uses : ∀ user used, { module with types }.Uses user used ↔ module.Uses user used := by
    intro user used
    simp only [Uses, shuffled.mem_iff]
  have names : NameSet.ofList { module with types }.mentionedNames =
      NameSet.ofList module.mentionedNames := by
    apply NameSet.ofList_congr
    intro name
    simp only [mem_mentionedNames_iff, uses, shuffled.mem_iff]
  have users : ∀ name, { module with types }.usersOf name = module.usersOf name := by
    intro name
    apply (NameSet.ofList_ascending _).sortedLT.eq_of_mem_iff
      (NameSet.ofList_ascending _).sortedLT
    intro user
    exact (mem_usersOf_iff _ name user).trans ((uses user name).trans
      (mem_usersOf_iff module name user).symm)
  simp only [referenceGraph, names, users]

theorem report_nodes :
    module.referenceGraph.report.nodes = {name | module.Mentions name}.ncard := by
  have counted : {name | module.Mentions name}.ncard = module.referenceGraph.names.length :=
    ncard_eq_length module.referenceGraph_sound.unique
      fun name => (module.mem_referenceGraph_names name).symm
  simp [counted, ReferenceGraph.report, ReferenceGraph.names]

theorem described : module.Described module.referenceGraph.report := by
  have sound := module.referenceGraph_sound
  have bytes : (fun name other : String => name < other) = BytesBefore := by
    funext name other
    exact propext (lt_iff_bytesBefore name other)
  refine ⟨module.report_nodes, ?_, module.ordered_iff_acyclic, ?_, ?_⟩
  · rw [ReferenceGraph.edges_eq_ncard sound, referenceGraph_edge_eq]
  · intro names order
    refine ⟨(module.arranges_iff names).mp (ReferenceGraph.ordered_arranges sound order), ?_⟩
    intro other arranges
    rw [← bytes]
    exact ReferenceGraph.ordered_least sound order other ((module.arranges_iff other).mpr arranges)
  · intro names order
    obtain ⟨ascending, members⟩ := ReferenceGraph.cyclic_names sound order
    exact ⟨bytes ▸ ascending, fun name => (members name).trans (module.entangled_iff name)⟩

/-- The report is right about every module, it is the same for every order of the
declarations, and no count is lowered below zero on the way to it. -/
theorem referenceReport_described :
    module.Described module.referenceGraph.report ∧
      (∀ types : List TypeAssignment, types.Perm module.types →
        { module with types }.referenceGraph.report = module.referenceGraph.report) ∧
      ∀ rounds, (Schedule.run module.referenceGraph rounds module.referenceGraph.start).Relieves
        module.referenceGraph := by
  have sound := module.referenceGraph_sound
  refine ⟨module.described, fun types shuffled => ?_, fun rounds => ?_⟩
  · rw [module.referenceGraph_perm shuffled]
  · exact Schedule.relieves_of_valid sound _
      (Schedule.run_valid sound rounds _ (Schedule.start_valid sound))

end

/-- Ring and Link lead to each other, and Chain to both. -/
def loops : TypeModule :=
  ⟨modelVersion, "Loops",
    [⟨"Ring", .reference 0 "Link"⟩, ⟨"Word", .shaped 1 .null⟩, ⟨"Chain", .reference 0 "Ring"⟩,
      ⟨"Link", .shaped 2 (.sequence [⟨"next", true, .reference 0 "Ring"⟩])⟩]⟩

theorem loops_held_up :
    loops.referenceGraph.report.order = .cyclic ["Chain", "Link", "Ring"] ∧
      loops.HeldUp ["Chain", "Link", "Ring"] ∧
      { loops with types := loops.types.reverse }.referenceGraph.report =
        loops.referenceGraph.report := by
  obtain ⟨described, shuffled, _⟩ := referenceReport_described loops
  exact ⟨rfl, described.cyclic _ rfl, shuffled _ loops.types.reverse_perm⟩

/-- In a well-formed module the points are the declared names. -/
theorem WellFormed.declared_order {module : TypeModule} (wellFormed : module.WellFormed) :
    ∃ names, module.referenceGraph.report.order = .ordered names ∧
      names.Perm (module.types.map (·.name)) := by
  have sound := module.referenceGraph_sound
  obtain ⟨names, order⟩ := module.ordered_iff_acyclic.mpr wellFormed.acyclic
  refine ⟨names, order, ?_⟩
  have arranges := (module.arranges_iff names).mp (ReferenceGraph.ordered_arranges sound order)
  refine (List.perm_ext_iff_of_nodup arranges.once wellFormed.distinctNames).mpr fun name => ?_
  rw [arranges.all, List.mem_map, Mentions, or_iff_left_of_imp]
  rintro ⟨_, assignment, declared, _, id, referred⟩
  exact (wellFormed.sound _
    (List.mem_flatMap.mpr ⟨assignment, declared, referred⟩)).2

end TypeModule

end Asn1Constraints
