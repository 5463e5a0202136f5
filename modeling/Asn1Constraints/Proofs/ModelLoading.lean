import Asn1Constraints.Proofs.AcceptedModels
import Asn1Constraints.Proofs.CompiledModules
import Asn1Constraints.Proofs.ModelTexts
import Mathlib

/-!
Written modules loaded again. Nothing is lost on the way from a module to its
text and back, and the schema turns none of them down, so what decides whether a
written module is loaded is its version and its well-formedness alone.
-/

namespace Asn1Constraints

open Json (Rearranges)

namespace ModelSchema

/-- No errors are reported for a written module, in whatever order its members are met. -/
theorem structuralReport_ok {arrange : Json → Json} (rearranges : Rearranges arrange)
    (m : TypeModule) (finite : m.FiniteReals) :
    (structuralReport document (arrange m.toJson)).isOk = true := by
  have none : document.check (arrange m.toJson) = [] :=
    module_accepts rearranges m finite _ ""
  simp [structuralReport, none, IssueReport.isOk]

end ModelSchema

namespace TypeModule

theorem versionErrors_eq_nil_iff (module : TypeModule) :
    module.versionErrors = [] ↔ module.version = modelVersion := by
  unfold versionErrors
  split <;> simp [*]

theorem shapeErrors_eq_nil_iff (module : TypeModule) :
    module.shapeErrors = [] ↔ module.validate = .ok () := by
  unfold shapeErrors
  cases module.validate <;> simp

theorem semanticReport_ok_iff (module : TypeModule) :
    module.semanticReport.isOk = true ↔
      module.version = modelVersion ∧ module.validate = .ok () := by
  rw [semanticReport, IssueReport.isOk, List.isEmpty_iff, List.append_eq_nil_iff,
    versionErrors_eq_nil_iff, shapeErrors_eq_nil_iff]

theorem compileModel_ok_iff (module : TypeModule) :
    (∃ loaded, compileModel module = .ok loaded) ↔
      module.version = modelVersion ∧ module.validate = .ok () := by
  rw [← semanticReport_ok_iff, compileModel]
  constructor
  · rintro ⟨loaded, made⟩
    by_contra unsound
    simp [unsound] at made
  · intro sound
    obtain ⟨compiled, built⟩ :=
      CompiledModule.ofModule_succeeds ((semanticReport_ok_iff module).mp sound).2
    exact ⟨⟨compiled, module.semanticReport.warnings⟩, by simp [sound, built]⟩

theorem compileModel_module {module : TypeModule} {loaded : LoadedModel}
    (made : compileModel module = .ok loaded) : loaded.compiled.module = module := by
  unfold compileModel at made
  simp only at made
  split at made
  · split at made
    · rename_i compiled built
      cases made
      exact (CompiledModule.ofModule_ok built).2.1
    · cases made
  · cases made

/-- The schema and the reader pass a written module on to what checks its meaning. -/
theorem loadModel_written {arrange : Json → Json} (rearranges : Rearranges arrange)
    (module : TypeModule) (finite : module.FiniteReals) :
    loadModel (arrange module.toJson) = compileModel module := by
  rw [loadModel, ModelSchema.modelSchema?_eq, loadModelBy]
  simp only [ModelSchema.structuralReport_ok rearranges module finite, if_true,
    module.back rearranges finite]

/-- A written module is read back as it was, straight from its text or from the
document in it, and the document is loaded if and only if the module has the
version of the format and is well-formed. -/
theorem written_module_loads (module : TypeModule) (finite : module.FiniteReals)
    (shallow : module.toJson.depth ≤ Json.levelLimit) :
    ofText module.toJson.text = .ok module ∧
      ∃ document, Json.parse module.toJson.text = .ok document ∧
        ofJson document = .ok module ∧
        ((∃ loaded, loadModel document = .ok loaded) ↔
          module.version = modelVersion ∧ module.validate = .ok ()) ∧
        ∀ loaded, loadModel document = .ok loaded → loaded.compiled.module = module := by
  refine ⟨module.ofText_text finite shallow, module.toJson.settled, ?_, ?_, ?_, ?_⟩
  · rw [Json.parse_text, if_pos shallow]
  · exact module.back Json.rearranges_settled finite
  · rw [loadModel_written Json.rearranges_settled module finite]
    exact module.compileModel_ok_iff
  · intro loaded made
    rw [loadModel_written Json.rearranges_settled module finite] at made
    exact compileModel_module made

/-- A tank with a level between limits and a note of any length there is. -/
def tanks : TypeModule :=
  ⟨modelVersion, "Tanks",
    [⟨"Tank", .shaped 1 (.sequence [⟨"level", false, .reference 0 "Level"⟩,
        ⟨"note", true, .shaped 3 (.ia5String ⟨0, 18446744073709551615⟩)⟩])⟩,
      ⟨"Level", .shaped 2 (.real ⟨.zero, .greatest⟩)⟩]⟩

theorem tanks_finite : tanks.FiniteReals := by
  intro id bounds member
  obtain ⟨rfl, rfl⟩ : id = 2 ∧ bounds = ⟨.zero, .greatest⟩ := by
    simpa [nodes, tanks, TypeNode.nodes, TypeNode.componentNodes] using member
  exact ⟨by decide, by decide⟩

theorem tanks_load :
    tanks.FiniteReals ∧ tanks.toJson.depth ≤ Json.levelLimit ∧
      ofText tanks.toJson.text = .ok tanks ∧
      ∃ document, Json.parse tanks.toJson.text = .ok document ∧ ofJson document = .ok tanks ∧
        ∃ loaded, loadModel document = .ok loaded ∧ loaded.compiled.module = tanks := by
  have shallow : tanks.toJson.depth ≤ Json.levelLimit := by decide
  obtain ⟨direct, document, parsed, read, loads, kept⟩ :=
    written_module_loads tanks tanks_finite shallow
  obtain ⟨loaded, made⟩ := loads.mpr ⟨rfl, rfl⟩
  exact ⟨tanks_finite, shallow, direct, document, parsed, read, loaded, made, kept loaded made⟩

end TypeModule

end Asn1Constraints
