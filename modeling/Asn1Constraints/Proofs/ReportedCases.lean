import Asn1Constraints.Instances.TestCases
import Asn1Constraints.Proofs.CompiledModules
import Asn1Constraints.Proofs.TypedInstances
import Mathlib

/-!
Reports of test cases. Every value that is generated is written to its case, with
the place of the value in the run, and the document in the case reads back as
the value. So does the document of a default instance.
-/

namespace Asn1Constraints

variable {σ : Type}

/-- The document stands for the value: it is written for the value and read as the
value, whose components are in declaration order, and the plan accepts the value. -/
structure StandsFor (module : TypeModule) (node : TypeNode) (plan : ValidationPlan)
    (json : Json) (value : Value) : Prop where
  written : value.toJson module node = .ok json
  read : Value.ofJson module node json = .ok value
  ordered : value.normalized module node = .ok value
  valid : plan.validate value = .ok ()

theorem TypeModule.require_ok_iff {module : TypeModule} {typeName : String}
    {assignment : TypeAssignment} :
    module.require typeName = .ok assignment ↔ module.find? typeName = some assignment := by
  rw [require]
  cases module.find? typeName <;> simp

/-- What the instances of a declared type have in common. -/
def TypeModule.Instance (module : TypeModule) (node : TypeNode) (value : Value) : Prop :=
  Conforms module node value ∧ Typed module node value

namespace TypeModule.WellFormed

variable {module : TypeModule} (wellFormed : module.WellFormed) (finite : module.FiniteReals)
  (assignment : TypeAssignment) (declared : assignment ∈ module.types)

include wellFormed finite declared

theorem default_instance {value : Value}
    (built : module.defaultInstance assignment.type = .ok value) :
    module.Instance assignment.type value := by
  have defaults := wellFormed.defaults assignment.type (wellFormed.allSound assignment declared)
  rw [built] at defaults
  exact ⟨defaults.1, wellFormed.built_typed finite assignment declared value built⟩

theorem drawn_instance {source : RandomSource σ} (faithful : source.Faithful)
    (options : TestCaseOptions) {state : σ} {value : Value}
    (drawn : (module.drawInstance source options assignment.type state).1 = .ok value) :
    module.Instance assignment.type value := by
  have run : ((module.unfold assignment.type).draw source options module.name).run.run state =
      (.ok value, (module.drawInstance source options assignment.type state).2) :=
    Prod.ext drawn rfl
  constructor
  · exact ((wellFormed.drawn finite faithful options assignment declared state).of_ok run).1
  · exact (wellFormed.drawn_typed finite assignment declared faithful options state).of_ok run

omit finite in
/-- Every instance has a document that stands for it. -/
theorem instance_stands {plan : ValidationPlan}
    (accepts : ∀ value, plan.validate value = .ok () ↔ Conforms module assignment.type value)
    {value : Value} (made : module.Instance assignment.type value) :
    ∃ json, StandsFor module assignment.type plan json value := by
  obtain ⟨json, written, read, ordered⟩ := wellFormed.typed_back assignment.type
    (wellFormed.allSound assignment declared) value made.2
  exact ⟨json, written, read, ordered, (accepts value).mpr made.1⟩

end TypeModule.WellFormed

/-- The report tells the values of the run in order, case by case, with the place
of each and a document that stands for it. -/
structure TestCaseReport.Tells (report : TestCaseReport) (module : TypeModule) (node : TypeNode)
    (plan : ValidationPlan) (values : List Value) : Prop where
  length : report.cases.length = values.length
  told : ∀ (place : ℕ) (case : TestCase), report.cases[place]? = some case →
    case.index = place ∧
      ∃ value, values[place]? = some value ∧ StandsFor module node plan case.value value

namespace TestCaseGenerator

variable {generator : TestCaseGenerator σ} {assignment : TypeAssignment} {typeName : String}
  {count : ℕ} {values : List Value}

/-- One draw for each case, from the first to the last. -/
theorem generate_ok (found : generator.module.require typeName = .ok assignment)
    (generated : generator.generate typeName count = .ok values) :
    List.Forall₂ (fun place value => generator.drawCase assignment typeName place = .ok value)
      (List.range count) values := by
  obtain ⟨other, same, drawn⟩ := bind_ok_iff.mp generated
  obtain rfl := Except.ok.inj (found.symm.trans same)
  exact mapM_ok_forall₂ drawn

theorem renderCase_ok {entry : Value × ℕ} {case : TestCase}
    (rendered : generator.renderCase assignment typeName entry = .ok case) :
    case.index = entry.2 ∧ entry.1.toJson generator.module assignment.type = .ok case.value := by
  obtain ⟨json, written, same⟩ := bind_ok_iff.mp rendered
  cases same
  exact ⟨rfl, written⟩

/-- Whatever can be written is reported, each value at its place. -/
theorem report_tells (found : generator.module.require typeName = .ok assignment)
    (generated : generator.generate typeName count = .ok values) {plan : ValidationPlan}
    (stands : ∀ value ∈ values,
      ∃ json, StandsFor generator.module assignment.type plan json value) :
    ∃ report, generator.report typeName count = .ok report ∧
      report.Tells generator.module assignment.type plan values := by
  -- Each value has a document, so each case can be rendered.
  obtain ⟨cases, rendered⟩ : ∃ cases,
      values.zipIdx.mapM (generator.renderCase assignment typeName) = .ok cases := by
    apply mapM_ok
    rintro ⟨value, place⟩ member
    obtain ⟨json, document⟩ := stands value (List.fst_mem_of_mem_zipIdx member)
    exact ⟨_, bind_ok_iff.mpr ⟨json, document.written, rfl⟩⟩
  have made := List.forall₂_iff_get.mp (mapM_ok_forall₂ rendered)
  refine ⟨⟨assignment.name, generator.options.seed, cases⟩, ?_, ?_, ?_⟩
  · refine bind_ok_iff.mpr ⟨assignment, found, bind_ok_iff.mpr ⟨values, generated, ?_⟩⟩
    exact bind_ok_iff.mpr ⟨cases, rendered, rfl⟩
  · simpa using made.1.symm
  · intro place case at_place
    obtain ⟨inside, rfl⟩ := List.getElem?_eq_some_iff.mp at_place
    have within : place < values.length := by simpa [← made.1] using inside
    have own := renderCase_ok (made.2 place (by simpa using within) inside)
    simp only [List.get_eq_getElem, List.getElem_zipIdx, Nat.zero_add] at own
    refine ⟨own.1, values[place], List.getElem?_eq_getElem within, ?_⟩
    obtain ⟨json, document⟩ := stands values[place] (List.getElem_mem within)
    obtain rfl := Except.ok.inj (document.written.symm.trans own.2)
    exact document

end TestCaseGenerator

namespace TypeModule.WellFormed

variable {module : TypeModule} (wellFormed : module.WellFormed) (finite : module.FiniteReals)
  (assignment : TypeAssignment) (declared : assignment ∈ module.types)

include wellFormed finite declared

theorem generated_instances {generator : TestCaseGenerator σ} (serves : generator.module = module)
    (faithful : generator.source.Faithful) {count : ℕ} {values : List Value}
    (generated : generator.generate assignment.name count = .ok values) :
    values.length = count ∧ ∀ value ∈ values, module.Instance assignment.type value := by
  subst serves
  have found := require_ok_iff.mpr (find?_of_mem wellFormed.distinctNames declared)
  have paired := TestCaseGenerator.generate_ok found generated
  refine ⟨by simpa using paired.length_eq.symm, fun value member => ?_⟩
  obtain ⟨place, _, drawn⟩ := exists_of_forall₂ paired member
  exact wellFormed.drawn_instance finite assignment declared faithful generator.options drawn

/-- A run that generates its values reports them. -/
theorem report_ok {generator : TestCaseGenerator σ} (serves : generator.module = module)
    (faithful : generator.source.Faithful) {plan : ValidationPlan}
    (accepts : ∀ value, plan.validate value = .ok () ↔ Conforms module assignment.type value)
    {count : ℕ} {values : List Value}
    (generated : generator.generate assignment.name count = .ok values) :
    ∃ report, generator.report assignment.name count = .ok report ∧
      report.cases.length = count ∧ report.Tells module assignment.type plan values := by
  obtain ⟨length, instances⟩ :=
    wellFormed.generated_instances finite assignment declared serves faithful generated
  subst serves
  have found := require_ok_iff.mpr (find?_of_mem wellFormed.distinctNames declared)
  obtain ⟨report, reported, tells⟩ := TestCaseGenerator.report_tells found generated
    fun value member =>
      wellFormed.instance_stands assignment declared accepts (instances value member)
  exact ⟨report, reported, tells.length.trans length, tells⟩

end TypeModule.WellFormed

end Asn1Constraints
