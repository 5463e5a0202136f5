import Asn1Constraints.Command.Run
import Asn1Constraints.Proofs.BoundaryCalls
import Asn1Constraints.Proofs.ReferenceReports
import Mathlib

/-!
A module that validates compiles. Each declared name has the one plan that the
type has by itself, no other name has any, and what asks for plans by the names
of the reference report finds them all. So loading a model can fail at its
schema, its text or its semantics, and nowhere after these.
-/

namespace Asn1Constraints

namespace CompiledModule

theorem compilePlans_ok {module : TypeModule} (types : List TypeAssignment)
    (each : ∀ assignment ∈ types, ∃ plan, module.compileUnchecked assignment.name = .ok plan) :
    ∃ plans, compilePlans module types = .ok plans := by
  rw [compilePlans_eq_mapM]
  apply mapM_ok
  intro assignment declared
  obtain ⟨plan, own⟩ := each assignment declared
  exact ⟨(assignment.name, plan), by rw [planEntry, own]; rfl⟩

theorem compile_eq_unchecked {module : TypeModule} (accepted : module.validate = .ok ())
    (typeName : String) : module.compile typeName = module.compileUnchecked typeName := by
  rw [TypeModule.compile, accepted]
  rfl

theorem ofModule_succeeds {module : TypeModule} (accepted : module.validate = .ok ()) :
    ∃ compiled, ofModule module = .ok compiled := by
  have wellFormed := TypeModule.wellFormed_of_validate accepted
  obtain ⟨plans, listed⟩ := compilePlans_ok module.types fun assignment declared => by
    obtain ⟨_, _, compiled⟩ := wellFormed.compile_ok accepted assignment declared
    exact ⟨_, compile_eq_unchecked accepted assignment.name ▸ compiled⟩
  refine ⟨⟨module, plans⟩, ?_⟩
  rw [ofModule, accepted, listed]
  rfl

/-- One plan for each declared name and none besides: look-ups know exactly these
names, and whoever goes through the names of the reference report, as the check
command does, gets a line for each. -/
structure Complete (compiled : CompiledModule) (module : TypeModule) : Prop where
  names : compiled.plans.map (·.1) = module.types.map (·.name)
  unique : (compiled.plans.map (·.1)).Nodup
  plans : ∀ entry ∈ compiled.plans, module.compile entry.1 = .ok entry.2
  planned : ∀ name, (∃ plan, compiled.requirePlan name = .ok plan) ↔
    name ∈ module.types.map (·.name)
  located : ∀ name, (∃ node, compiled.typeNode name = .ok node) ↔
    name ∈ module.types.map (·.name)
  ordered : ∃ names, module.referenceGraph.report.order = .ordered names ∧
    names.Perm (module.types.map (·.name)) ∧ ∃ lines, names.mapM (planLine compiled) = .ok lines

section

variable {module : TypeModule} {compiled : CompiledModule} (built : ofModule module = .ok compiled)

include built

theorem plans_names : compiled.plans.map (·.1) = module.types.map (·.name) :=
  compilePlans_names (ofModule_ok built).2.2

theorem plans_unique : (compiled.plans.map (·.1)).Nodup := by
  rw [plans_names built]
  exact (TypeModule.wellFormed_of_validate (ofModule_ok built).1).distinctNames

/-- The plan kept for a name is the plan of that type. -/
theorem plans_compiled : ∀ entry ∈ compiled.plans, module.compile entry.1 = .ok entry.2 := by
  intro entry member
  obtain ⟨accepted, _, listed⟩ := ofModule_ok built
  obtain ⟨assignment, _, named, unchecked⟩ := exists_of_forall₂ (compilePlans_paired listed) member
  rw [named, compile_eq_unchecked accepted, unchecked]

theorem requirePlan_compiled {typeName : String} {plan : ValidationPlan}
    (planned : compiled.requirePlan typeName = .ok plan) : module.compile typeName = .ok plan := by
  rw [requirePlan, plan?] at planned
  cases found : compiled.plans.lookup typeName with
  | none => simp [found] at planned
  | some own =>
      obtain rfl : own = plan := by simpa [found] using planned
      exact plans_compiled built _ (mem_of_lookup found)

theorem requirePlan_ok_iff (typeName : String) :
    (∃ plan, compiled.requirePlan typeName = .ok plan) ↔
      typeName ∈ module.types.map (·.name) := by
  have absent := lookup_eq_none_iff_absent compiled.plans typeName
  rw [plans_names built] at absent
  rw [requirePlan, plan?]
  cases found : compiled.plans.lookup typeName with
  | none => simpa using absent.mp found
  | some plan => simpa [found] using absent

theorem typeNode_ok_iff (typeName : String) :
    (∃ node, compiled.typeNode typeName = .ok node) ↔
      typeName ∈ module.types.map (·.name) := by
  obtain ⟨_, rfl, _⟩ := ofModule_ok built
  have declared := compiled.module.find?_isSome_iff typeName
  rw [List.mem_map, ← declared, typeNode, TypeModule.require]
  cases compiled.module.find? typeName <;> simp [Except.map]

theorem planLines_ok {names : List String} (declared : names.Perm (module.types.map (·.name))) :
    ∃ lines, names.mapM (planLine compiled) = .ok lines := by
  apply mapM_ok
  intro name member
  obtain ⟨plan, planned⟩ := (requirePlan_ok_iff built name).mpr (declared.mem_iff.mp member)
  rw [planLine, planned]
  exact ⟨_, rfl⟩

theorem complete_of_built : compiled.Complete module where
  names := plans_names built
  unique := plans_unique built
  plans := plans_compiled built
  planned := requirePlan_ok_iff built
  located := typeNode_ok_iff built
  ordered := by
    have wellFormed := TypeModule.wellFormed_of_validate (ofModule_ok built).1
    obtain ⟨names, order, declared⟩ := wellFormed.declared_order
    exact ⟨names, order, declared, planLines_ok built declared⟩

end

end CompiledModule

namespace TypeModule

theorem validate_of_semanticReport {module : TypeModule} (sound : module.semanticReport.isOk) :
    module.validate = .ok () := by
  have shaped : module.shapeErrors = [] := by
    have nothing : module.versionErrors ++ module.shapeErrors = [] := by
      simpa [semanticReport, IssueReport.isOk] using sound
    exact (List.append_eq_nil_iff.mp nothing).2
  unfold shapeErrors at shaped
  cases checked : module.validate with
  | ok => rfl
  | error cause => simp [checked] at shaped

theorem semanticReport_codes (module : TypeModule) :
    ∀ issue ∈ module.semanticReport.errors, issue.code ≠ "compile_error" := by
  intro issue member
  rcases List.mem_append.mp member with version | shape
  · unfold versionErrors at version
    split at version
    · cases version
    · obtain rfl := List.mem_singleton.mp version
      simp
  · unfold shapeErrors at shape
    split at shape
    · cases shape
    · obtain rfl := List.mem_singleton.mp shape
      rename_i cause _
      cases cause <;> simp [Error.code]

/-- After the semantic checks there is nothing left to fail. -/
theorem compileModel_eq (module : TypeModule) {report : IssueReport}
    (failed : compileModel module = .error report) : report = module.semanticReport := by
  unfold compileModel at failed
  simp only at failed
  split at failed
  · rename_i sound
    obtain ⟨compiled, built⟩ := CompiledModule.ofModule_succeeds (validate_of_semanticReport sound)
    rw [built] at failed
    cases failed
  · exact (Except.error.inj failed).symm

theorem loadModelBy_codes (schema? : Option SchemaDocument) (document : Json)
    (report : IssueReport) (failed : loadModelBy schema? document = .error report) :
    ∀ issue ∈ report.errors, issue.code ≠ "compile_error" := by
  unfold loadModelBy at failed
  cases schema? with
  | none =>
      obtain rfl := Except.error.inj failed
      simp [IssueReport.single]
  | some schema =>
      simp only at failed
      split at failed
      · split at failed
        · rename_i module _
          rw [module.compileModel_eq failed]
          exact module.semanticReport_codes
        · obtain rfl := Except.error.inj failed
          simp [IssueReport.single]
      · obtain rfl := Except.error.inj failed
        intro issue member
        obtain ⟨error, _, rfl⟩ := List.mem_map.mp member
        simp [SchemaError.issue]

/-- Validation is all that compiling asks for, so that no model that is loaded is
turned down for its plans. -/
theorem validated_modules_compile :
    (∀ module : TypeModule, module.validate = .ok () →
      ∃ compiled, CompiledModule.ofModule module = .ok compiled ∧ compiled.Complete module) ∧
    ∀ (document : Json) (report : IssueReport), loadModel document = .error report →
      ∀ issue ∈ report.errors, issue.code ≠ "compile_error" := by
  refine ⟨fun module accepted => ?_, loadModelBy_codes SchemaDocument.modelSchema?⟩
  obtain ⟨compiled, built⟩ := CompiledModule.ofModule_succeeds accepted
  exact ⟨compiled, built, CompiledModule.complete_of_built built⟩

/-- A letter, its page and a stamp that both have, the last declared first used. -/
def letters : TypeModule :=
  ⟨modelVersion, "Letters",
    [⟨"Letter", .shaped 1 (.sequence [⟨"pages", false, .shaped 2 (.sequenceOf ⟨1, 9⟩
        (.reference 0 "Page"))⟩, ⟨"stamp", true, .reference 0 "Stamp"⟩])⟩,
      ⟨"Page", .shaped 3 (.choice [⟨"blank", .shaped 0 .null⟩, ⟨"mark", .reference 0 "Stamp"⟩])⟩,
      ⟨"Stamp", .shaped 4 (.integer ⟨0, 9⟩)⟩]⟩

theorem letters_compile :
    letters.validate = .ok () ∧
      ∃ compiled, CompiledModule.ofModule letters = .ok compiled ∧ compiled.Complete letters :=
  ⟨rfl, validated_modules_compile.1 letters rfl⟩

end TypeModule

end Asn1Constraints
