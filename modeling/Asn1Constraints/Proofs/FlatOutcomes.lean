import Asn1Constraints.Plan.Document
import Asn1Constraints.Proofs.JsonRoundTrip
import Asn1Constraints.Proofs.PlainChecks
import Mathlib

/-!
The flat outcome of a run: the id of the first violation, with zero for none.
It tells failure from success as long as no check of the plan has id zero. No
plan that is made from a type has such a check, whatever the module is like; a
plan that is read from a document may have one, and its violations pass for
success.
-/

namespace Asn1Constraints

/-- No check goes without an id. -/
def Numbered (checks : List Check) : Prop := ∀ check ∈ checks, check.id ≠ 0

theorem numbered_append {first second : List Check} (before : Numbered first)
    (after : Numbered second) : Numbered (first ++ second) :=
  List.forall_mem_append.mpr ⟨before, after⟩

theorem ownCheck_numbered (id : ConstraintId) (path : FieldPath) (rule : CheckRule) :
    Numbered (ownCheck id path rule) := by
  by_cases none : id = 0 <;> simp [ownCheck, none, Numbered]

namespace TypeTree

/-- To show something of every tree, show it of what dangles, and of a shape from
its branches once they have grown. -/
theorem branchInduction {motive : TypeTree → Prop}
    (dangling : ∀ cause, motive (.dangling cause))
    (shaped : ∀ id (shape : Shape Branch), (∀ branch ∈ shape.parts, motive (branch ())) →
      motive (.shaped id shape))
    (tree : TypeTree) : motive tree := by
  apply @TypeTree.rec motive (fun shape => ∀ branch ∈ shape.parts, motive (branch ()))
    (fun components => ∀ component ∈ components, motive (component.type ()))
    (fun alternatives => ∀ alternative ∈ alternatives, motive (alternative.type ()))
    (fun component => motive (component.type ()))
    (fun alternative => motive (alternative.type ())) shaped dangling
  all_goals simp +contextual [Shape.parts]

/-- Wherever the tree stands, its checks have ids. -/
def PlansNumbered (module : String) (tree : TypeTree) : Prop :=
  ∀ path checks, tree.checks module path = .ok checks → Numbered checks

theorem partChecks_numbered {module : String} {path : FieldPath} {shape : Shape Branch}
    {checks : List Check} (each : ∀ branch ∈ shape.parts, PlansNumbered module (branch ()))
    (planned : partChecks module path shape = .ok checks) : Numbered checks := by
  rw [partChecks_eq_mapM] at planned
  obtain ⟨parts, listed, rfl⟩ := map_ok_iff.mp planned
  intro check member
  obtain ⟨part, isPart, inside⟩ := List.mem_flatten.mp member
  obtain ⟨branch, isBranch, made⟩ := exists_of_forall₂ (mapM_ok_forall₂ listed) isPart
  exact each branch.2 (shape.branch_mem_parts branch isBranch) _ part made check inside

theorem plansNumbered (module : String) (tree : TypeTree) : PlansNumbered module tree := by
  induction tree using branchInduction with
  | dangling cause => exact nofun
  | shaped id shape ih =>
      intro path checks planned
      rw [TypeTree.checks] at planned
      cases inner : partChecks module path shape with
      | error error =>
          rw [inner] at planned
          cases planned
      | ok parts =>
          rw [inner] at planned
          obtain rfl := Except.ok.inj planned
          exact numbered_append (partChecks_numbered ih inner) (ownCheck_numbered id path _)

end TypeTree

namespace TypeModule

theorem planOf_numbered {module : TypeModule} {node : TypeNode} {plan : ValidationPlan}
    (made : module.planOf node = .ok plan) : Numbered plan.checks := by
  obtain ⟨checks, planned, remaining⟩ := bind_ok_iff.mp made
  obtain ⟨_, _, result⟩ := bind_ok_iff.mp remaining
  obtain rfl := Except.ok.inj result
  exact TypeTree.plansNumbered _ _ _ checks planned

theorem compileUnchecked_numbered {module : TypeModule} {typeName : String}
    {plan : ValidationPlan} (compiled : module.compileUnchecked typeName = .ok plan) :
    Numbered plan.checks := by
  obtain ⟨assignment, _, remaining⟩ := bind_ok_iff.mp compiled
  obtain ⟨made, planned, result⟩ := bind_ok_iff.mp remaining
  have numbered := planOf_numbered planned
  obtain rfl := Except.ok.inj result
  exact numbered

theorem compile_numbered {module : TypeModule} {typeName : String} {plan : ValidationPlan}
    (compiled : module.compile typeName = .ok plan) : Numbered plan.checks := by
  obtain ⟨_, _, unchecked⟩ := bind_ok_iff.mp compiled
  exact compileUnchecked_numbered unchecked

end TypeModule

namespace ValidationPlan

/-- The outcome is the whole verdict in one number: it is valid for the values
that pass and no others, and otherwise names the constraint that fails first. -/
def TellsFailure (plan : ValidationPlan) : Prop :=
  ∀ value, ((plan.validateOutcome value).isValid = true ↔ plan.validate value = .ok ()) ∧
    ∀ violation, plan.validate value = .error violation →
      (plan.validateOutcome value).errorCode = violation.id ∧ violation.id ≠ 0

/-- What is reported first is reported by a check of the plan. -/
theorem violation_of_check {plan : ValidationPlan} {value : Value} {violation : Violation}
    (refused : plan.validate value = .error violation) :
    ∃ check ∈ plan.checks, violation.id = check.id := by
  have first : violation ∈ plan.validateAll value := by
    rw [validate_eq_head] at refused
    rw [validateAll_eq_map]
    cases met : plan.failures value with
    | nil =>
        rw [met] at refused
        cases refused
    | cons failure rest =>
        rw [met] at refused
        obtain rfl := Except.error.inj refused
        exact List.mem_cons_self
  -- The violations of a run are those of its checks, one check woven into the other.
  have listed := (plan.validateAll_interleaved value).perm.mem_iff.mp first
  rw [List.mem_flatten] at listed
  obtain ⟨_, isPart, among⟩ := listed
  obtain ⟨check, member, rfl⟩ := List.mem_map.mp isPart
  obtain ⟨entry, reported, rfl⟩ := List.mem_map.mp among
  obtain ⟨place, _, found⟩ := List.mem_filterMap.mp reported
  obtain ⟨finding, _, rfl⟩ := Option.map_eq_some_iff.mp found
  exact ⟨check, member, rfl⟩

theorem tellsFailure_of_numbered {plan : ValidationPlan} (numbered : Numbered plan.checks) :
    plan.TellsFailure := by
  intro value
  cases verdict : plan.validate value with
  | ok => exact ⟨by simp [validateOutcome, verdict, Outcome.isValid], nofun⟩
  | error violation =>
      obtain ⟨check, member, same⟩ := violation_of_check verdict
      have named : violation.id ≠ 0 := same ▸ numbered check member
      refine ⟨by simp [validateOutcome, verdict, Outcome.isValid, named], ?_⟩
      rintro other reported
      obtain rfl := Except.error.inj reported
      exact ⟨by simp [validateOutcome, verdict], named⟩

/-- Every plan made from a type tells failure from success by its outcome, and of
the plans from elsewhere those whose checks all have ids. -/
theorem outcome_tells_failure (plan : ValidationPlan)
    (origin : (∃ module : TypeModule, ∃ node, module.planOf node = .ok plan) ∨
      (∃ module : TypeModule, ∃ typeName,
        module.compileUnchecked typeName = .ok plan ∨ module.compile typeName = .ok plan) ∨
      ∀ check ∈ plan.checks, check.id ≠ 0) :
    plan.TellsFailure := by
  apply tellsFailure_of_numbered
  rcases origin with ⟨module, node, made⟩ | ⟨module, typeName, unchecked | checked⟩ | numbered
  · exact TypeModule.planOf_numbered made
  · exact TypeModule.compileUnchecked_numbered unchecked
  · exact TypeModule.compile_numbered checked
  · exact numbered

/-- A stored plan of one check, that a value is a flag. -/
def flagPlan (id : ConstraintId) : ValidationPlan :=
  ⟨"Flag", id, [⟨id, .root, .isBoolean⟩]⟩

/-- A door with a flag of its own and one that goes without an id. -/
def doorNode : TypeNode :=
  .shaped 3 (.sequence [⟨"open", false, .shaped 7 .boolean⟩, ⟨"lit", true, .shaped 0 .boolean⟩])

def doors : TypeModule := ⟨modelVersion, "Doors", [⟨"Door", doorNode⟩]⟩

/-- Read from its document, a check with id zero lets a number pass for a flag. -/
theorem unnumbered_hides_failure :
    ¬ ∀ (document : Json) (plan : ValidationPlan), ofJson document = .ok plan →
      plan.TellsFailure := by
  intro claimed
  have stored : ofJson (flagPlan 0).toJson = .ok (flagPlan 0) := rfl
  have valid : ((flagPlan 0).validateOutcome (.integer 5)).isValid = true := rfl
  have accepted := ((claimed _ _ stored (.integer 5)).1).mp valid
  cases accepted

theorem doors_tell_failure :
    (∃ plan, doors.planOf doorNode = .ok plan ∧ plan.TellsFailure) ∧
      (∃ plan, doors.compile "Door" = .ok plan ∧ plan.TellsFailure) ∧
        (∀ check ∈ (flagPlan 4).checks, check.id ≠ 0) ∧ (flagPlan 4).TellsFailure := by
  have made : doors.planOf doorNode = .ok _ := rfl
  have compiled : doors.compile "Door" = .ok _ := rfl
  have numbered : ∀ check ∈ (flagPlan 4).checks, check.id ≠ 0 := by decide
  exact ⟨⟨_, made, outcome_tells_failure _ (.inl ⟨doors, doorNode, made⟩)⟩,
    ⟨_, compiled, outcome_tells_failure _ (.inr (.inl ⟨doors, "Door", .inr compiled⟩))⟩,
    numbered, outcome_tells_failure (flagPlan 4) (.inr (.inr numbered))⟩

end ValidationPlan

end Asn1Constraints
