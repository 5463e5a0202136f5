import Asn1Constraints.Proofs.CompiledModules
import Mathlib

/-!
Checks traced back to their nodes. However often references put a type in
another's place, a check has the id and the rule of one node of the module, and
the node is the only one with that id. Copies of a check differ in their paths
alone, and no node with an id goes without a check.
-/

namespace Asn1Constraints

/-- Where the checks apply. -/
def checkPaths (checks : List Check) : List FieldPath := checks.map (·.path)

theorem checkPaths_append (first second : List Check) :
    checkPaths (first ++ second) = checkPaths first ++ checkPaths second := List.map_append

/-- The path that starts with one segment more. -/
def FieldPath.startingWith (segment : PathSegment) (path : FieldPath) : FieldPath :=
  ⟨segment :: path.segments⟩

theorem FieldPath.startingWith_injective (segment : PathSegment) :
    Function.Injective (FieldPath.startingWith segment) := by
  rintro ⟨segments⟩ ⟨others⟩ same
  simpa [startingWith] using same

theorem checkPaths_under (segment : PathSegment) (checks : List Check) :
    checkPaths (checks.map (·.under segment)) =
      (checkPaths checks).map (.startingWith segment) := by
  simp [checkPaths, Check.under, Check.below, FieldPath.startingWith, Function.comp_def]

namespace TypeModule

section

variable {module : TypeModule}

/-- A node of the module has this id and enforces this rule. -/
def Enforces (module : TypeModule) (id : ConstraintId) (rule : CheckRule) : Prop :=
  id ≠ 0 ∧ ∃ shape, TypeNode.shaped id shape ∈ module.nodes ∧ shape.rule = rule

theorem mem_ownCheck_iff (id : ConstraintId) (path : FieldPath) (rule : CheckRule) (check : Check) :
    check ∈ ownCheck id path rule ↔ id ≠ 0 ∧ check = ⟨id, path, rule⟩ := by
  by_cases none : id = 0 <;> simp [ownCheck, none]

theorem mem_branchChecks_iff (branches : List (PathSegment × TypeNode)) (check : Check) :
    check ∈ module.branchChecks branches ↔
      ∃ branch ∈ branches, ∃ inner ∈ module.checksOf branch.2, inner.under branch.1 = check := by
  simp [branchChecks]

theorem checkPaths_branchChecks (branches : List (PathSegment × TypeNode)) :
    checkPaths (module.branchChecks branches) = branches.flatMap fun branch =>
      (checkPaths (module.checksOf branch.2)).map (.startingWith branch.1) := by
  simp only [← checkPaths_under]
  simp [checkPaths, branchChecks, List.map_flatMap]

theorem branchPaths_nodup (branches : List (PathSegment × TypeNode))
    (distinct : (branches.map (·.1)).Nodup)
    (each : ∀ branch ∈ branches, (checkPaths (module.checksOf branch.2)).Nodup) :
    (checkPaths (module.branchChecks branches)).Nodup := by
  rw [checkPaths_branchChecks, List.nodup_flatMap]
  constructor
  · intro branch member
    exact (each branch member).map (FieldPath.startingWith_injective branch.1)
  · refine (List.pairwise_map.mp distinct).imp fun {branch other} apart path inOne inOther => ?_
    obtain ⟨inner, _, rfl⟩ := List.mem_map.mp inOne
    obtain ⟨outer, _, same⟩ := List.mem_map.mp inOther
    have segments := congrArg FieldPath.segments same
    exact apart (List.cons.inj segments).1.symm

theorem part_branch {shape : Shape TypeNode} {part : TypeNode} (isPart : part ∈ shape.parts) :
    ∃ segment, (segment, part) ∈ shape.branches := by
  rw [← Shape.branches_parts] at isPart
  obtain ⟨⟨segment, node⟩, member, rfl⟩ := List.mem_map.mp isPart
  exact ⟨segment, member⟩

namespace WellFormed

variable (wellFormed : module.WellFormed)

include wellFormed

theorem allSound_of_mem {node : TypeNode} (member : node ∈ module.nodes) : node.AllSound module :=
  fun inner below => wellFormed.sound inner (nodes_closed member inner below)

/-- One id, one node: what carries it has one shape. -/
theorem shape_unique {id : ConstraintId} (named : id ≠ 0) {shape other : Shape TypeNode}
    (member : TypeNode.shaped id shape ∈ module.nodes)
    (also : TypeNode.shaped id other ∈ module.nodes) : shape = other := by
  have distinct : ((module.nodes.filter (·.id ≠ 0)).map (·.id)).Nodup := by
    have ids := wellFormed.distinctIds
    rw [List.filter_map] at ids
    exact ids
  have withId : ∀ shape, TypeNode.shaped id shape ∈ module.nodes →
      TypeNode.shaped id shape ∈ module.nodes.filter (·.id ≠ 0) :=
    fun shape inside => List.mem_filter.mpr ⟨inside, decide_eq_true named⟩
  have same := List.inj_on_of_nodup_map distinct (withId shape member) (withId other also) rfl
  exact (TypeNode.shaped.inj same).2

/-- To show something of every check of a type, show it of the check that a node
makes of its own, and carry it under the segments of parts. -/
theorem checkInduction {motive : Check → Prop}
    (own : ∀ id shape, .shaped id shape ∈ module.nodes → id ≠ 0 → motive ⟨id, .root, shape.rule⟩)
    (under : ∀ id shape, .shaped id shape ∈ module.nodes → ∀ branch ∈ shape.branches,
      ∀ check, motive check → motive (check.under branch.1))
    (assignment : TypeAssignment) (declared : assignment ∈ module.types) :
    ∀ check ∈ module.checksOf assignment.type, motive check := by
  apply wellFormed.nodeInduction (motive := fun node => ∀ check ∈ module.checksOf node, motive check)
    ?_ ?_ assignment declared
  -- A reference stands for a type of the same module, so nothing enters from outside.
  · intro id target other found ih
    rw [wellFormed.checksOf_reference id target other found]
    exact ih
  · intro id shape member _ ih check planned
    rw [wellFormed.checksOf_shaped id shape (wellFormed.allSound_of_mem member)] at planned
    rcases List.mem_append.mp planned with inPart | ofNode
    · obtain ⟨branch, isBranch, inner, inside, rfl⟩ := (mem_branchChecks_iff _ _).mp inPart
      have below := ih branch.2 (shape.branch_mem_parts branch isBranch) inner inside
      exact under id shape member branch isBranch inner below
    · obtain ⟨named, rfl⟩ := (mem_ownCheck_iff _ _ _ _).mp ofNode
      exact own id shape member named

/-- A check stems from a node, whatever was put in whose place on the way. -/
theorem checks_traced (assignment : TypeAssignment) (declared : assignment ∈ module.types) :
    ∀ check ∈ module.checksOf assignment.type, module.Enforces check.id check.rule := by
  refine wellFormed.checkInduction ?_ ?_ assignment declared
  · exact fun id shape member named => ⟨named, shape, member, rfl⟩
  · exact fun id shape member branch isBranch check traced => traced

/-- Every node of a type that has an id is checked in the plan of the type. -/
theorem nodes_checked (outer : TypeNode) (sound : outer.AllSound module) :
    ∀ node ∈ outer.nodes, node.id ≠ 0 → ∃ check ∈ module.checksOf outer, check.id = node.id := by
  induction outer using TypeNode.partsInduction with
  | reference id target =>
      intro node member named
      obtain rfl : node = .reference id target := by
        simpa [TypeNode.nodes_reference] using member
      exact absurd (sound _ (TypeNode.self_mem_nodes _)).1 named
  | shaped id shape ih =>
      have below := ((TypeNode.allSound_shaped module id shape).mp sound).2
      intro node member named
      rw [wellFormed.checksOf_shaped id shape sound]
      rw [TypeNode.nodes_shaped] at member
      rcases List.mem_cons.mp member with rfl | deeper
      · exact ⟨⟨id, .root, shape.rule⟩,
          List.mem_append_right _ ((mem_ownCheck_iff _ _ _ _).mpr ⟨named, rfl⟩), rfl⟩
      · obtain ⟨part, isPart, inPart⟩ := List.mem_flatMap.mp deeper
        obtain ⟨check, planned, same⟩ := ih part isPart (below part isPart) node inPart named
        obtain ⟨segment, isBranch⟩ := part_branch isPart
        exact ⟨check.under segment, List.mem_append_left _ ((mem_branchChecks_iff _ _).mpr
          ⟨_, isBranch, check, planned, rfl⟩), same⟩

/-- No two checks of a plan apply at the same place. -/
theorem checkPaths_nodup (assignment : TypeAssignment) (declared : assignment ∈ module.types) :
    (checkPaths (module.checksOf assignment.type)).Nodup := by
  apply wellFormed.nodeInduction
    (motive := fun node => (checkPaths (module.checksOf node)).Nodup) ?_ ?_ assignment declared
  · intro id target other found ih
    rw [wellFormed.checksOf_reference id target other found]
    exact ih
  · intro id shape member sound ih
    have inParts := branchPaths_nodup shape.branches sound.segments_nodup fun branch isBranch =>
      ih branch.2 (shape.branch_mem_parts branch isBranch)
    have own : (checkPaths (ownCheck id .root shape.rule)).Nodup := by
      by_cases none : id = 0 <;> simp [ownCheck, none, checkPaths]
    rw [wellFormed.checksOf_shaped id shape (wellFormed.allSound_of_mem member), checkPaths_append]
    refine inParts.append own fun path inBranch inOwn => ?_
    -- The own check is at the place itself, all others are further down.
    obtain ⟨check, planned, rfl⟩ := List.mem_map.mp inOwn
    obtain ⟨_, rfl⟩ := (mem_ownCheck_iff _ _ _ _).mp planned
    rw [checkPaths_branchChecks] at inBranch
    obtain ⟨branch, _, deeper⟩ := List.mem_flatMap.mp inBranch
    obtain ⟨inner, _, same⟩ := List.mem_map.mp deeper
    cases same

end WellFormed

end

end TypeModule

namespace CompiledModule

variable {module : TypeModule} {compiled : CompiledModule} (built : ofModule module = .ok compiled)

include built

/-- The plans kept are those of the types, and no type is left out. -/
theorem plan_of_type (entry : String × ValidationPlan) (member : entry ∈ compiled.plans) :
    ∃ assignment ∈ module.types, entry.2.checks = module.checksOf assignment.type := by
  have accepted := (ofModule_ok built).1
  have wellFormed := TypeModule.wellFormed_of_validate accepted
  have named : entry.1 ∈ module.types.map (·.name) := plans_names built ▸ List.mem_map_of_mem member
  obtain ⟨assignment, declared, same⟩ := List.mem_map.mp named
  obtain ⟨_, _, made⟩ := wellFormed.compile_ok accepted assignment declared
  have kept := plans_compiled built entry member
  rw [← same, made] at kept
  exact ⟨assignment, declared, by rw [← Except.ok.inj kept]⟩

theorem type_planned (assignment : TypeAssignment) (declared : assignment ∈ module.types) :
    ∃ entry ∈ compiled.plans, entry.2.checks = module.checksOf assignment.type := by
  have accepted := (ofModule_ok built).1
  have wellFormed := TypeModule.wellFormed_of_validate accepted
  have named : assignment.name ∈ compiled.plans.map (·.1) :=
    plans_names built ▸ List.mem_map_of_mem declared
  obtain ⟨entry, member, same⟩ := List.mem_map.mp named
  obtain ⟨_, _, made⟩ := wellFormed.compile_ok accepted assignment declared
  have kept := plans_compiled built entry member
  rw [same, made] at kept
  exact ⟨entry, member, by rw [← Except.ok.inj kept]⟩

theorem checks_enforced {entry : String × ValidationPlan} (member : entry ∈ compiled.plans)
    {check : Check} (planned : check ∈ entry.2.checks) : module.Enforces check.id check.rule := by
  have wellFormed := TypeModule.wellFormed_of_validate (ofModule_ok built).1
  obtain ⟨assignment, declared, same⟩ := plan_of_type built entry member
  exact wellFormed.checks_traced assignment declared check (same ▸ planned)

theorem same_id_same_rule {entry other : String × ValidationPlan} (member : entry ∈ compiled.plans)
    (also : other ∈ compiled.plans) {check twin : Check} (planned : check ∈ entry.2.checks)
    (repeated : twin ∈ other.2.checks) (same : check.id = twin.id) : check.rule = twin.rule := by
  have wellFormed := TypeModule.wellFormed_of_validate (ofModule_ok built).1
  obtain ⟨named, shape, inModule, own⟩ := checks_enforced built member planned
  obtain ⟨_, second, alsoIn, alsoOwn⟩ := checks_enforced built also repeated
  rw [← same] at alsoIn
  rw [← own, ← alsoOwn, wellFormed.shape_unique named inModule alsoIn]

theorem id_planned {node : TypeNode} (member : node ∈ module.nodes) (named : node.id ≠ 0) :
    ∃ entry ∈ compiled.plans, ∃ check ∈ entry.2.checks, check.id = node.id := by
  have wellFormed := TypeModule.wellFormed_of_validate (ofModule_ok built).1
  obtain ⟨assignment, declared, below⟩ := List.mem_flatMap.mp member
  obtain ⟨entry, kept, same⟩ := type_planned built assignment declared
  obtain ⟨check, planned, found⟩ := wellFormed.nodes_checked assignment.type
    (wellFormed.allSound assignment declared) node below named
  exact ⟨entry, kept, check, same ▸ planned, found⟩

/-- What a plan lists for an id: one rule, at a different place each time. -/
theorem checksFor_copies {entry : String × ValidationPlan} (member : entry ∈ compiled.plans)
    (id : ConstraintId) :
    (∃ rule, ∀ check ∈ entry.2.checksFor id, check.id = id ∧ check.rule = rule) ∧
      ((entry.2.checksFor id).map (·.path)).Nodup := by
  have listed : ∀ check ∈ entry.2.checksFor id, check ∈ entry.2.checks ∧ check.id = id := by
    intro check found
    simpa [ValidationPlan.checksFor] using found
  constructor
  · cases found : entry.2.checksFor id with
    | nil => exact ⟨.isNull, nofun⟩
    | cons first rest =>
        refine ⟨first.rule, fun check among => ?_⟩
        obtain ⟨own, ownId⟩ := listed first (by simp [found])
        obtain ⟨planned, checkId⟩ := listed check (found ▸ among)
        exact ⟨checkId, same_id_same_rule built member member planned own (checkId.trans ownId.symm)⟩
  · have wellFormed := TypeModule.wellFormed_of_validate (ofModule_ok built).1
    obtain ⟨assignment, declared, same⟩ := plan_of_type built entry member
    have distinct := wellFormed.checkPaths_nodup assignment declared
    rw [← same] at distinct
    exact distinct.sublist (List.filter_sublist.map _)

end CompiledModule

namespace TypeModule

/-- In the plans of a well-formed module an id stands for one constraint, that of
the node which carries it, and every id is there. -/
theorem id_names_constraint (module : TypeModule) (accepted : module.validate = .ok ()) :
    ∃ compiled, CompiledModule.ofModule module = .ok compiled ∧
      (∀ entry ∈ compiled.plans, ∀ other ∈ compiled.plans,
        ∀ check ∈ entry.2.checks, ∀ twin ∈ other.2.checks,
          check.id = twin.id → check.rule = twin.rule) ∧
      (∀ entry ∈ compiled.plans, ∀ check ∈ entry.2.checks, module.Enforces check.id check.rule) ∧
      (∀ node ∈ module.nodes, node.id ≠ 0 →
        ∃ entry ∈ compiled.plans, ∃ check ∈ entry.2.checks, check.id = node.id) ∧
      ∀ entry ∈ compiled.plans, ∀ id,
        (∃ rule, ∀ check ∈ entry.2.checksFor id, check.id = id ∧ check.rule = rule) ∧
          ((entry.2.checksFor id).map (·.path)).Nodup := by
  obtain ⟨compiled, built⟩ := CompiledModule.ofModule_succeeds accepted
  refine ⟨compiled, built, ?_, ?_, ?_, ?_⟩
  · intro entry member other also check planned twin repeated same
    exact CompiledModule.same_id_same_rule built member also planned repeated same
  · exact fun entry member check planned => CompiledModule.checks_enforced built member planned
  · exact fun node member named => CompiledModule.id_planned built member named
  · exact fun entry member id => CompiledModule.checksFor_copies built member id

/-- A route whose two ends are of one type, which has a part of another one. -/
def routes : TypeModule :=
  ⟨modelVersion, "Routes",
    [⟨"Route", .shaped 1 (.sequence [⟨"from", false, .reference 0 "Stop"⟩,
        ⟨"via", true, .shaped 2 (.sequenceOf ⟨0, 5⟩ (.reference 0 "Stop"))⟩,
        ⟨"to", false, .reference 0 "Stop"⟩])⟩,
      ⟨"Stop", .shaped 3 (.choice [⟨"code", .reference 0 "Code"⟩, ⟨"none", .shaped 0 .null⟩])⟩,
      ⟨"Code", .shaped 4 (.integer ⟨0, 99⟩)⟩]⟩

theorem routes_share_rules :
    routes.validate = .ok () ∧
      ∃ compiled, CompiledModule.ofModule routes = .ok compiled ∧
        (∀ entry ∈ compiled.plans, ∀ other ∈ compiled.plans,
          ∀ check ∈ entry.2.checks, ∀ twin ∈ other.2.checks,
            check.id = twin.id → check.rule = twin.rule) ∧
        (∀ entry ∈ compiled.plans, ∀ check ∈ entry.2.checks,
          routes.Enforces check.id check.rule) ∧
        (∀ node ∈ routes.nodes, node.id ≠ 0 →
          ∃ entry ∈ compiled.plans, ∃ check ∈ entry.2.checks, check.id = node.id) ∧
        ∀ entry ∈ compiled.plans, ∀ id,
          (∃ rule, ∀ check ∈ entry.2.checksFor id, check.id = id ∧ check.rule = rule) ∧
            ((entry.2.checksFor id).map (·.path)).Nodup :=
  ⟨rfl, id_names_constraint routes rfl⟩

end TypeModule

end Asn1Constraints
