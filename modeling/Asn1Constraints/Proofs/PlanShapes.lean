import Asn1Constraints.Proofs.FlatOutcomes
import Asn1Constraints.Proofs.TracedChecks
import Mathlib

/-!
The order of the checks in a plan. Whatever a plan checks at a place and below
it stands together, with the place itself last, so that a walk can take up a
place once and be done with it. References are followed where they stand and
add nothing to this; what keeps the parts of a type apart are their names.
-/

namespace Asn1Constraints

/-- The run holds what is checked at the place and below it: neighbours in the
list of all checks, the place itself after everything that is below. -/
structure RunAt (checks : List Check) (place : List PathSegment) (run : List Check) : Prop where
  together : ∃ before after, checks = before ++ run ++ after ∧
    ∀ check ∈ before ++ after, ¬ place <+: check.path.segments
  inside : ∀ check ∈ run, place <+: check.path.segments
  last : ∀ check ∈ run, check.path.segments = place → run.getLast? = some check

namespace RunAt

variable {checks others run : List Check} {place : List PathSegment}

theorem nowhere (outside : ∀ check ∈ checks, ¬ place <+: check.path.segments) :
    RunAt checks place [] :=
  ⟨⟨checks, [], by simp, by simpa using outside⟩, nofun, nofun⟩

theorem append_left (runs : RunAt checks place run)
    (outside : ∀ check ∈ others, ¬ place <+: check.path.segments) :
    RunAt (others ++ checks) place run := by
  obtain ⟨before, after, split, elsewhere⟩ := runs.together
  obtain ⟨earlier, later⟩ := List.forall_mem_append.mp elsewhere
  refine ⟨⟨others ++ before, after, by simp [split], ?_⟩, runs.inside, runs.last⟩
  exact List.forall_mem_append.mpr ⟨List.forall_mem_append.mpr ⟨outside, earlier⟩, later⟩

theorem append_right (runs : RunAt checks place run)
    (outside : ∀ check ∈ others, ¬ place <+: check.path.segments) :
    RunAt (checks ++ others) place run := by
  obtain ⟨before, after, split, elsewhere⟩ := runs.together
  obtain ⟨earlier, later⟩ := List.forall_mem_append.mp elsewhere
  refine ⟨⟨before, after ++ others, by simp [split], ?_⟩, runs.inside, runs.last⟩
  exact List.forall_mem_append.mpr ⟨earlier, List.forall_mem_append.mpr ⟨later, outside⟩⟩

theorem under (runs : RunAt checks place run) (segment : PathSegment) :
    RunAt (checks.map (·.under segment)) (segment :: place) (run.map (·.under segment)) := by
  have within : ∀ check : Check, segment :: place <+: (check.under segment).path.segments ↔
      place <+: check.path.segments := fun check => List.prefix_cons_inj segment
  obtain ⟨before, after, split, elsewhere⟩ := runs.together
  refine ⟨⟨before.map (·.under segment), after.map (·.under segment), by simp [split], ?_⟩, ?_, ?_⟩
  · rw [← List.map_append]
    rintro _ outside
    obtain ⟨check, member, rfl⟩ := List.mem_map.mp outside
    exact fun inside => elsewhere check member ((within check).mp inside)
  · rintro _ member
    obtain ⟨check, isCheck, rfl⟩ := List.mem_map.mp member
    exact (within check).mpr (runs.inside check isCheck)
  · rintro _ member own
    obtain ⟨check, isCheck, rfl⟩ := List.mem_map.mp member
    have same : check.path.segments = place := (List.cons.inj own).2
    rw [List.getLast?_map, runs.last check isCheck same]
    rfl

end RunAt

/-- Every place has its run. -/
def Nested (checks : List Check) : Prop := ∀ place, ∃ run, RunAt checks place run

/-- What starts with another segment is neither at the place nor below it. -/
theorem outside_of_start? {segment other : PathSegment} {place : List PathSegment} {check : Check}
    (start : check.start? = some other) (apart : other ≠ segment) :
    ¬ segment :: place <+: check.path.segments := by
  rintro ⟨rest, path⟩
  rw [Check.start?, ← path] at start
  exact apart (Option.some.inj start).symm

namespace TypeModule

section

variable {module : TypeModule}

/-- Below a segment there is the run of the one part that it leads to. -/
theorem branchChecks_runAt (branches : List (PathSegment × TypeNode))
    (distinct : (branches.map (·.1)).Nodup)
    (each : ∀ branch ∈ branches, Nested (module.checksOf branch.2)) (segment : PathSegment)
    (place : List PathSegment) : ∃ run, RunAt (module.branchChecks branches) (segment :: place) run := by
  induction branches with
  | nil => exact ⟨[], .nowhere nofun⟩
  | cons branch rest ih =>
      obtain ⟨own, node⟩ := branch
      rw [List.map_cons, List.nodup_cons] at distinct
      obtain ⟨first, later⟩ := List.forall_mem_cons.mp each
      rw [branchChecks_cons]
      -- Checks start with the segments of their parts, and no two parts share a segment.
      by_cases same : own = segment
      · subst own
        obtain ⟨run, runs⟩ := first place
        refine ⟨run.map (·.under segment), (runs.under segment).append_right fun check planned => ?_⟩
        obtain ⟨branch, isBranch, start⟩ := start?_of_branch rest check planned
        refine outside_of_start? start fun same => ?_
        exact distinct.1 (List.mem_map.mpr ⟨branch, isBranch, same⟩)
      · obtain ⟨run, runs⟩ := ih distinct.2 later
        refine ⟨run, runs.append_left fun check planned => ?_⟩
        obtain ⟨inner, _, rfl⟩ := List.mem_map.mp planned
        exact outside_of_start? (Check.start?_under own inner) same

theorem branch_path_ne_nil (branches : List (PathSegment × TypeNode)) (check : Check)
    (planned : check ∈ module.branchChecks branches) : check.path.segments ≠ [] := by
  obtain ⟨branch, _, inner, _, rfl⟩ := (mem_branchChecks_iff branches check).mp planned
  exact List.cons_ne_nil _ _

namespace WellFormed

variable (wellFormed : module.WellFormed)

include wellFormed

theorem checks_nested (assignment : TypeAssignment) (declared : assignment ∈ module.types) :
    Nested (module.checksOf assignment.type) := by
  apply wellFormed.nodeInduction (motive := fun node => Nested (module.checksOf node))
    ?_ ?_ assignment declared
  · intro id target other found ih
    rw [wellFormed.checksOf_reference id target other found]
    exact ih
  · intro id shape member sound ih place
    rw [wellFormed.checksOf_shaped id shape (wellFormed.allSound_of_mem member)]
    cases place with
    -- Everything is below the type itself, and only its own check is there.
    | nil =>
        refine ⟨module.branchChecks shape.branches ++ ownCheck id .root shape.rule,
          ⟨[], [], by simp, nofun⟩, fun check _ => List.nil_prefix, fun check planned own => ?_⟩
        rcases List.mem_append.mp planned with inPart | atRoot
        · exact absurd own (branch_path_ne_nil _ check inPart)
        · obtain ⟨named, rfl⟩ := (mem_ownCheck_iff _ _ _ _).mp atRoot
          simp [ownCheck, named]
    | cons segment place =>
        obtain ⟨run, runs⟩ := branchChecks_runAt shape.branches sound.segments_nodup
          (fun branch isBranch => ih branch.2 (shape.branch_mem_parts branch isBranch)) segment place
        refine ⟨run, runs.append_right fun check planned => ?_⟩
        obtain ⟨_, rfl⟩ := (mem_ownCheck_iff _ _ _ _).mp planned
        simp [FieldPath.root]

/-- The check of a type ends its plan, and a type without a check has an empty plan. -/
theorem root_check (assignment : TypeAssignment) (declared : assignment ∈ module.types) :
    ∀ resolved, module.resolve assignment.type = .ok resolved →
      (resolved.id ≠ 0 → (module.checksOf assignment.type).getLast? =
        some ⟨resolved.id, .root, resolved.shape.rule⟩) ∧
      (resolved.id = 0 → module.checksOf assignment.type = []) := by
  apply wellFormed.nodeInduction (motive := fun node => ∀ resolved,
      module.resolve node = .ok resolved →
        (resolved.id ≠ 0 → (module.checksOf node).getLast? =
          some ⟨resolved.id, .root, resolved.shape.rule⟩) ∧
        (resolved.id = 0 → module.checksOf node = [])) ?_ ?_ assignment declared
  · intro id target other found ih
    rw [resolve_reference found, wellFormed.checksOf_reference id target other found]
    exact ih
  · intro id shape member _ _ resolved reached
    obtain rfl : ⟨id, shape⟩ = resolved := Except.ok.inj reached
    have sound := wellFormed.allSound_of_mem member
    rw [wellFormed.checksOf_shaped id shape sound]
    constructor
    · intro named
      simp [ownCheck, named]
    · intro unnamed
      obtain rfl : id = 0 := unnamed
      -- Only booleans and nulls go without an id, and they have no parts.
      rcases (sound _ (TypeNode.self_mem_nodes _)).1 rfl with rfl | rfl <;>
        simp [ownCheck, Shape.branches, branchChecks]

end WellFormed

/-- A plan made from a declared type checks no place twice and nothing without an
id. What is checked at a place and below it stands together with the place
itself last; so the type itself comes at the end, if it has a check. -/
theorem compiled_plan_nested (module : TypeModule) (accepted : module.validate = .ok ())
    (assignment : TypeAssignment) (declared : assignment ∈ module.types) :
    ∃ plan, module.compile assignment.name = .ok plan ∧
      (∀ check ∈ plan.checks, check.id ≠ 0) ∧
      (plan.checks.map (·.path.segments)).Nodup ∧
      (∀ place, ∃ run, RunAt plan.checks place run) ∧
      (plan.rootId ≠ 0 → ∃ rule, plan.checks.getLast? = some ⟨plan.rootId, .root, rule⟩) ∧
      (plan.rootId = 0 → plan.checks = []) := by
  have wellFormed := wellFormed_of_validate accepted
  obtain ⟨resolved, reached, made⟩ := wellFormed.compile_ok accepted assignment declared
  obtain ⟨named, unnamed⟩ := wellFormed.root_check assignment declared resolved reached
  have segments : Function.Injective FieldPath.segments := fun ⟨_⟩ ⟨_⟩ same => congrArg _ same
  have distinct := (wellFormed.checkPaths_nodup assignment declared).map segments
  rw [checkPaths, List.map_map] at distinct
  exact ⟨_, made, compile_numbered made, distinct, wellFormed.checks_nested assignment declared,
    fun root => ⟨_, named root⟩, unnamed⟩

theorem routes_plan_nested :
    routes.validate = .ok () ∧ ∃ route ∈ routes.types, ∃ plan,
      routes.compile route.name = .ok plan ∧ plan.rootId ≠ 0 ∧
        (plan.checks.map (·.path.segments)).Nodup ∧
        ∃ rule, plan.checks.getLast? = some ⟨plan.rootId, .root, rule⟩ := by
  obtain ⟨plan, made, _, distinct, _, root, _⟩ :=
    compiled_plan_nested routes rfl _ List.mem_cons_self
  have named : plan.rootId ≠ 0 := by
    obtain rfl := Except.ok.inj made
    decide
  exact ⟨rfl, _, List.mem_cons_self, plan, made, named, distinct, root named⟩

end

end TypeModule

end Asn1Constraints
