import Asn1Constraints.Proofs.CheckRuns
import Asn1Constraints.Proofs.Results
import Asn1Constraints.Proofs.Unfolding
import Asn1Constraints.Plan.Compile
import Mathlib

/-!
The checks of a type in a well-formed module. There is always a plan, and its
checks are those of the parts, each under the segment that leads to the part,
followed by the own check of the type. The place from which the paths start
makes no other difference.
-/

namespace Asn1Constraints

namespace Shape

variable {Node Part : Type}

/-- The parts of a shape, each with the segment that leads to it. -/
def branches : Shape Node → List (PathSegment × Node)
  | .sequenceOf _ element => [(.element, element)]
  | .sequence components =>
    components.map fun component => (.component component.name, component.type)
  | .choice alternatives =>
    alternatives.map fun alternative => (.alternative alternative.name, alternative.type)
  | _ => []

theorem branches_map (f : Node → Part) (shape : Shape Node) :
    (shape.map f).branches = shape.branches.map fun branch => (branch.1, f branch.2) := by
  cases shape <;> simp [map, branches]

theorem branches_parts (shape : Shape Node) : shape.branches.map (·.2) = shape.parts := by
  cases shape <;> simp [branches, parts, Function.comp_def]

theorem branch_mem_parts (shape : Shape Node) (branch : PathSegment × Node)
    (member : branch ∈ shape.branches) : branch.2 ∈ shape.parts := by
  rw [← branches_parts]
  exact List.mem_map_of_mem member

theorem Sound.segments_nodup {shape : Shape Node} (sound : shape.Sound) :
    (shape.branches.map (·.1)).Nodup := by
  cases shape with
  | sequence components =>
      have named : Function.Injective PathSegment.component := fun _ _ => PathSegment.component.inj
      simpa [branches, Function.comp_def] using List.Nodup.map named sound
  | choice alternatives =>
      have named : Function.Injective PathSegment.alternative :=
        fun _ _ => PathSegment.alternative.inj
      simpa [branches, Function.comp_def] using List.Nodup.map named sound.2
  | _ => simp [branches]

theorem rule_map (f : Node → Part) (shape : Shape Node) : (shape.map f).rule = shape.rule := by
  cases shape <;> simp [map, rule, List.filter_map, Function.comp_def]

end Shape

namespace TypeTree

/-! The checks of the parts, whatever kind of parts they are. -/

def branchPlan (module : String) (path : FieldPath) (branch : PathSegment × Branch) :
    Except Error (List Check) :=
  (branch.2 ()).checks module (path.push branch.1)

theorem componentChecks_eq_mapM (module : String) (path : FieldPath)
    (components : List (Component Branch)) :
    componentChecks module path components =
      ((Shape.sequence components).branches.mapM (branchPlan module path)).map List.flatten := by
  induction components with
  | nil => rfl
  | cons component rest ih =>
      have cons : (Shape.sequence (component :: rest)).branches =
          (.component component.name, component.type) :: (Shape.sequence rest).branches := rfl
      rw [componentChecks, ih, cons, List.mapM_cons, branchPlan]
      cases (component.type ()).checks module (path.push (.component component.name)) with
      | error error => rfl
      | ok first => cases (Shape.sequence rest).branches.mapM (branchPlan module path) <;> rfl

theorem alternativeChecks_eq_mapM (module : String) (path : FieldPath)
    (alternatives : List (Alternative Branch)) :
    alternativeChecks module path alternatives =
      ((Shape.choice alternatives).branches.mapM (branchPlan module path)).map List.flatten := by
  induction alternatives with
  | nil => rfl
  | cons alternative rest ih =>
      have cons : (Shape.choice (alternative :: rest)).branches =
          (.alternative alternative.name, alternative.type) :: (Shape.choice rest).branches := rfl
      rw [alternativeChecks, ih, cons, List.mapM_cons, branchPlan]
      cases (alternative.type ()).checks module (path.push (.alternative alternative.name)) with
      | error error => rfl
      | ok first => cases (Shape.choice rest).branches.mapM (branchPlan module path) <;> rfl

theorem partChecks_eq_mapM (module : String) (path : FieldPath) (shape : Shape Branch) :
    partChecks module path shape =
      (shape.branches.mapM (branchPlan module path)).map List.flatten := by
  cases shape with
  | sequenceOf size element =>
      rw [partChecks, Shape.branches, List.mapM_cons, branchPlan]
      cases (element ()).checks module (path.push .element) with
      | error error => rfl
      | ok first => exact congrArg Except.ok (List.append_nil first).symm
  | sequence components => exact componentChecks_eq_mapM module path components
  | choice alternatives => exact alternativeChecks_eq_mapM module path alternatives
  | _ => rfl

end TypeTree

theorem ownCheck_below (id : ConstraintId) (path : FieldPath) (rule : CheckRule) :
    ownCheck id path rule = (ownCheck id .root rule).map (·.below path) := by
  by_cases none : id = 0 <;> simp [ownCheck, none, Check.below, FieldPath.root]

/-- What a node finds wrong with the value in its place, apart from the parts. -/
def ownViolations (id : ConstraintId) (place : String) (rule : CheckRule) (value : Value) :
    List Violation :=
  if id = 0 then [] else (rule.finding? value).toList.map fun found => ⟨id, place, rule, found⟩

namespace TypeModule

/-- The checks of a type, with their paths from its own place. -/
def checksOf (module : TypeModule) (node : TypeNode) : List Check :=
  ((module.unfold node).checks module.name .root).toOption.getD []

def branchChecks (module : TypeModule) (branches : List (PathSegment × TypeNode)) : List Check :=
  branches.flatMap fun branch => (module.checksOf branch.2).map (·.under branch.1)

/-- The tree of the node has a plan at every place, the same everywhere. -/
def Planned (module : TypeModule) (node : TypeNode) : Prop :=
  ∀ path, (module.unfold node).checks module.name path =
    .ok ((module.checksOf node).map (·.below path))

def branchReports (module : TypeModule) (place : String) (value : Value)
    (branch : PathSegment × TypeNode) : List Violation :=
  (branch.1.targets value).flatMap fun target =>
    reports (module.checksOf branch.2) (place ++ placeText [branch.1] target.1) target.2

section Planning

variable {module : TypeModule}

theorem branchChecks_cons (segment : PathSegment) (node : TypeNode)
    (rest : List (PathSegment × TypeNode)) :
    module.branchChecks ((segment, node) :: rest) =
      (module.checksOf node).map (·.under segment) ++ module.branchChecks rest := by
  simp [branchChecks]

theorem checks_push {node : TypeNode} (planned : module.Planned node) (path : FieldPath)
    (segment : PathSegment) :
    (module.unfold node).checks module.name (path.push segment) =
      .ok (((module.checksOf node).map (·.under segment)).map (·.below path)) := by
  rw [planned, List.map_map]
  simp only [Function.comp_def, Check.below_push]

theorem partChecks_ok (path : FieldPath) (shape : Shape TypeNode)
    (planned : ∀ part ∈ shape.parts, module.Planned part) :
    TypeTree.partChecks module.name path (shape.map fun part _ => module.unfold part) =
      .ok ((module.branchChecks shape.branches).map (·.below path)) := by
  have listed : (shape.map fun part _ => module.unfold part).branches.mapM
      (TypeTree.branchPlan module.name path) = .ok (shape.branches.map fun branch =>
        ((module.checksOf branch.2).map (·.under branch.1)).map (·.below path)) := by
    rw [Shape.branches_map, List.mapM_map]
    exact mapM_eq _ fun branch isBranch =>
      checks_push (planned _ (shape.branch_mem_parts branch isBranch)) path branch.1
  rw [TypeTree.partChecks_eq_mapM, listed, branchChecks, List.map_flatMap, List.flatMap_def]
  rfl

theorem shaped_checks (id : ConstraintId) (shape : Shape TypeNode) (path : FieldPath)
    (planned : ∀ part ∈ shape.parts, module.Planned part) :
    (module.unfold (.shaped id shape)).checks module.name path =
      .ok ((module.branchChecks shape.branches ++ ownCheck id .root shape.rule).map
        (·.below path)) := by
  rw [unfold_shaped, TypeTree.checks, partChecks_ok path shape planned, Shape.rule_map,
    ownCheck_below id path]
  simp

theorem checksOf_of_planned_parts (id : ConstraintId) (shape : Shape TypeNode)
    (planned : ∀ part ∈ shape.parts, module.Planned part) :
    module.checksOf (.shaped id shape) =
      module.branchChecks shape.branches ++ ownCheck id .root shape.rule := by
  rw [checksOf, shaped_checks id shape .root planned, Check.below_root]
  simp [Except.toOption]

theorem start?_of_branch (branches : List (PathSegment × TypeNode)) :
    ∀ check ∈ module.branchChecks branches, ∃ branch ∈ branches, check.start? = some branch.1 := by
  intro check member
  obtain ⟨branch, isBranch, inside⟩ := List.mem_flatMap.mp member
  obtain ⟨inner, _, rfl⟩ := List.mem_map.mp inside
  exact ⟨branch, isBranch, Check.start?_under branch.1 inner⟩

theorem reports_branchChecks (branches : List (PathSegment × TypeNode)) (place : String)
    (value : Value) (distinct : (branches.map (·.1)).Nodup) :
    reports (module.branchChecks branches) place value =
      branches.flatMap (module.branchReports place value) := by
  induction branches with
  | nil => simp [branchChecks, reports_nil]
  | cons branch rest ih =>
      obtain ⟨segment, node⟩ := branch
      rw [List.map_cons, List.nodup_cons] at distinct
      rw [branchChecks_cons, reports_append, ih distinct.2, reports_under]
      · rfl
      -- Checks of two parts start with different segments, so no run goes from one to the next.
      · intro check member other among same
        obtain ⟨inner, _, rfl⟩ := List.mem_map.mp member
        obtain ⟨branch, isBranch, start⟩ := start?_of_branch rest other among
        rw [Check.start?_under, start, Option.some.injEq] at same
        exact absurd (List.mem_map.mpr ⟨branch, isBranch, same.symm⟩) distinct.1

theorem reports_ownCheck (id : ConstraintId) (rule : CheckRule) (place : String) (value : Value) :
    reports (ownCheck id .root rule) place value = ownViolations id place rule value := by
  by_cases none : id = 0 <;>
    simp [ownCheck, ownViolations, none, reports_nil, reports_single]

end Planning

namespace WellFormed

variable {module : TypeModule} (wellFormed : module.WellFormed)

include wellFormed

/-- A reference is checked as its target. -/
theorem checksOf_reference (id : ConstraintId) (target : String) (assignment : TypeAssignment)
    (found : module.find? target = some assignment) :
    module.checksOf (.reference id target) = module.checksOf assignment.type := by
  rw [checksOf, unfold_reference wellFormed.acyclic id target assignment found, ← checksOf]

theorem planned (node : TypeNode) (sound : node.AllSound module) : module.Planned node := by
  apply wellFormed.induction ?_ ?_ node sound
  · intro id target assignment found ih path
    rw [unfold_reference wellFormed.acyclic id target assignment found, ih path,
      wellFormed.checksOf_reference id target assignment found]
  · intro id shape _ ih path
    rw [shaped_checks id shape path ih, checksOf_of_planned_parts id shape ih]

/-- The checks of the parts in order, then the check of the node itself. -/
theorem checksOf_shaped (id : ConstraintId) (shape : Shape TypeNode)
    (sound : (TypeNode.shaped id shape).AllSound module) :
    module.checksOf (.shaped id shape) =
      module.branchChecks shape.branches ++ ownCheck id .root shape.rule := by
  have below := ((TypeNode.allSound_shaped module id shape).mp sound).2
  exact checksOf_of_planned_parts id shape fun part isPart =>
    wellFormed.planned part (below part isPart)

/-- What the checks of the parts report, part by part, then the node's own. -/
theorem reports_shaped (id : ConstraintId) (shape : Shape TypeNode)
    (sound : (TypeNode.shaped id shape).AllSound module) (place : String) (value : Value) :
    reports (module.checksOf (.shaped id shape)) place value =
      shape.branches.flatMap (module.branchReports place value) ++
        ownViolations id place shape.rule value := by
  have shapeSound := (sound _ (TypeNode.self_mem_nodes _)).2
  rw [wellFormed.checksOf_shaped id shape sound, reports_append, reports_ownCheck,
    reports_branchChecks _ _ _ shapeSound.segments_nodup]
  intro check _ other own same
  -- The own check starts with no segment, so it does not join the last run of the parts.
  have root : other.start? = none := by
    by_cases none : id = 0
    · simp [ownCheck, none] at own
    · simp [ownCheck, none] at own
      subst other
      rfl
  rw [same, root]

theorem compile_ok (accepted : module.validate = .ok ()) (assignment : TypeAssignment)
    (declared : assignment ∈ module.types) :
    ∃ resolved, module.resolve assignment.type = .ok resolved ∧
      module.compile assignment.name =
        .ok ⟨assignment.name, resolved.id, module.checksOf assignment.type⟩ := by
  have sound := wellFormed.allSound assignment declared
  have checks := wellFormed.planned assignment.type sound .root
  rw [Check.below_root, List.map_id'] at checks
  have found := find?_of_mem wellFormed.distinctNames declared
  obtain ⟨resolved, reached⟩ := wellFormed.resolve_ok assignment.type sound
  have unchecked : module.compileUnchecked assignment.name =
      .ok ⟨assignment.name, resolved.id, module.checksOf assignment.type⟩ := by
    simp [compileUnchecked, require, found, planOf, checks, reached, bind, Except.bind, pure,
      Except.pure]
  refine ⟨resolved, reached, ?_⟩
  rw [compile, accepted, ← unchecked]
  rfl

end WellFormed

end TypeModule

end Asn1Constraints
