import Asn1Constraints.Proofs.CommandRuns
import Asn1Constraints.Proofs.KeystreamAnswers
import Asn1Constraints.Proofs.ModelLoading
import Asn1Constraints.Proofs.ReportedCases
import Mathlib

/-!
Instances that the command prints. Default instances and the values of test cases
are read again as what they were and are valid, so a file with one of them passes
the command that validates it, if only it does not nest deeper than the reader
allows. How deep an instance nests is not bounded by any check on the model.
-/

namespace Asn1Constraints

/-! Models in files. -/

theorem compileModel_built {module : TypeModule} {loaded : LoadedModel}
    (made : compileModel module = .ok loaded) :
    CompiledModule.ofModule module = .ok loaded.compiled := by
  unfold compileModel at made
  simp only at made
  split at made
  · split at made
    · rename_i compiled built
      cases made
      exact built
    · cases made
  · cases made

theorem mapError_ok_iff {ε δ α : Type} {first : Except ε α} {wrap : ε → δ} {result : α} :
    first.mapError wrap = .ok result ↔ first = .ok result := by
  cases first <;> simp [Except.mapError]

theorem loadModelBy_built {schema? : Option SchemaDocument} {document : Json}
    {loaded : LoadedModel} (made : loadModelBy schema? document = .ok loaded) :
    CompiledModule.ofModule loaded.compiled.module = .ok loaded.compiled := by
  unfold loadModelBy at made
  split at made
  · cases made
  · simp only at made
    split at made
    · split at made
      · have built := compileModel_built made
        rwa [TypeModule.compileModel_module made]
      · cases made
    · cases made

/-- Whatever is loaded from a text was compiled from its module. -/
theorem loadModelText_built {text : String} {loaded : LoadedModel}
    (loads : loadModelText text = .ok loaded) :
    CompiledModule.ofModule loaded.compiled.module = .ok loaded.compiled := by
  unfold loadModelText at loads
  split at loads
  · cases loads
  · exact loadModelBy_built (mapError_ok_iff.mp loads)

namespace FileStore.Models

variable {store : FileStore} {path : FilePath} {module : TypeModule}

/-- The model of a file has the plan and the node of each declared type. -/
theorem serves (models : store.Models path module) (assignment : TypeAssignment)
    (declared : assignment ∈ module.types) {plan : ValidationPlan}
    (compiled : module.compile assignment.name = .ok plan) :
    ∃ text loaded, store.find path = .ok (.file text) ∧ loadModelText text = .ok loaded ∧
      loaded.compiled.module = module ∧
      loaded.compiled.Serves assignment.name plan assignment.type := by
  obtain ⟨text, loaded, found, loads, rfl⟩ := models
  have built := loadModelText_built loads
  obtain ⟨own, serves⟩ := CompiledModule.serves_declared built assignment declared
  obtain rfl : own = plan :=
    Except.ok.inj ((CompiledModule.requirePlan_compiled built serves.planned).symm.trans compiled)
  exact ⟨text, loaded, found, loads, rfl, serves⟩

end FileStore.Models

/-! What the commands print, and what they say of it. -/

/-- The commands for a type agree: the instances that are printed stand for values
of the type, and files with such documents are judged valid, a batch of them with
metrics that count each as passed, as long as they nest no deeper than the reader
allows, and are not read at all if they do. -/
structure CommandsAgree (module : TypeModule) (assignment : TypeAssignment)
    (plan : ValidationPlan) : Prop where
  printsDefault : ∀ (store : FileStore) (settings : Settings) (target : Target) (value : Value),
    store.Models target.model module → target.typeName = assignment.name →
    module.defaultOfType assignment.name = .ok value →
    ∃ json, StandsFor module assignment.type plan json value ∧
      store.outcome settings (.defaultInstance target) = ⟨0, json.indentedText ++ "\n", ""⟩
  printsCases : ∀ (store : FileStore) (settings : Settings) (request : TestCasesRequest)
      (values : List Value),
    store.Models request.target.model module → request.target.typeName = assignment.name →
    request.output = none →
    (request.generator settings module).generate assignment.name (request.cases settings) =
      .ok values →
    ∃ report : TestCaseReport, report.Tells module assignment.type plan values ∧
      store.outcome settings (.testCases request) = ⟨0, report.toJson.indentedText ++ "\n", ""⟩
  judgesInstance : ∀ (store : FileStore) (settings : Settings) (request : ValidateRequest)
      (json : Json) (value : Value),
    store.Models request.target.model module → request.target.typeName = assignment.name →
    request.batch = false → StandsFor module assignment.type plan json value →
    store.find request.instances = .ok (.file (json.indentedText ++ "\n")) →
    store.outcome settings (.validate request) =
      if json.depth ≤ Json.levelLimit then ⟨0, "valid\n", ""⟩
      else .ofResult (.error .unreadableDocument) ⟨"", ""⟩
  judgesBatch : ∀ (store : FileStore) (settings : Settings) (request : ValidateRequest)
      (documents : List Json),
    store.Models request.target.model module → request.target.typeName = assignment.name →
    request.batch = true → request.metrics = none → request.report = none →
    (∀ json ∈ documents, ∃ value, StandsFor module assignment.type plan json value) →
    store.find request.instances = .ok (.file ((Json.array documents).indentedText ++ "\n")) →
    store.outcome settings (.validate request) =
      if (Json.array documents).depth ≤ Json.levelLimit then
        ⟨0, (BatchMetrics.allPassed plan documents.length).toJson.indentedText ++ "\n", ""⟩
      else .ofResult (.error .unreadableDocument) ⟨"", ""⟩

theorem StandsFor.settled {module : TypeModule} {node : TypeNode} {plan : ValidationPlan}
    {json : Json} {value : Value} (stands : StandsFor module node plan json value) :
    json.settled = json :=
  Value.toJson_settled stands.written

section

variable {module : TypeModule} {assignment : TypeAssignment} {plan : ValidationPlan}

/-- Documents that stand for values are read one by one as valid values. -/
theorem documents_read {documents : List Json}
    (stand : ∀ json ∈ documents, ∃ value, StandsFor module assignment.type plan json value) :
    ∃ values, documents.mapM (Value.ofJson module assignment.type) = .ok values ∧
      ∀ value ∈ values, plan.validate value = .ok () := by
  obtain ⟨values, read⟩ := mapM_ok documents fun json member => by
    obtain ⟨value, stands⟩ := stand json member
    exact ⟨value, stands.read⟩
  refine ⟨values, read, fun value member => ?_⟩
  obtain ⟨json, inside, own⟩ := exists_of_forall₂ (mapM_ok_forall₂ read) member
  obtain ⟨other, stands⟩ := stand json inside
  obtain rfl := Except.ok.inj (own.symm.trans stands.read)
  exact stands.valid

end

namespace TypeModule.WellFormed

variable {module : TypeModule} (wellFormed : module.WellFormed) (finite : module.FiniteReals)
  (assignment : TypeAssignment) (declared : assignment ∈ module.types)

include wellFormed declared

theorem defaultOfType_eq :
    module.defaultOfType assignment.name = module.defaultInstance assignment.type := by
  have found := require_ok_iff.mpr (find?_of_mem wellFormed.distinctNames declared)
  rw [defaultOfType, found]
  rfl

include finite

theorem commands_agree {plan : ValidationPlan}
    (compiled : module.compile assignment.name = .ok plan)
    (accepts : ∀ value, plan.validate value = .ok () ↔ Conforms module assignment.type value) :
    CommandsAgree module assignment plan where
  printsDefault store settings target value models named built := by
    rw [wellFormed.defaultOfType_eq assignment declared] at built
    obtain ⟨json, stands⟩ := wellFormed.instance_stands assignment declared accepts
      (wellFormed.default_instance finite assignment declared built)
    obtain ⟨text, loaded, found, loads, rfl, serves⟩ := models.serves assignment declared compiled
    rw [← named] at serves
    have ended : store.outcome settings (.defaultInstance target) = .ofResult (.ok ()) _ :=
      Session.Runs.outcome (runDefault_runs found loads serves.located built stands.written)
    refine ⟨json, stands, ?_⟩
    rw [ended, Outcome.ofResult, String.empty_append]
  printsCases store settings request values models named printed generated := by
    obtain ⟨report, reported, _, tells⟩ := wellFormed.report_ok finite assignment declared rfl
      ChaChaStream.source_faithful accepts generated
    obtain ⟨text, loaded, found, loads, rfl⟩ := models
    rw [← named] at reported
    have ended : store.outcome settings (.testCases request) = .ofResult (.ok ()) _ :=
      Session.Runs.outcome (runTestCases_runs found loads printed reported)
    refine ⟨report, tells, ?_⟩
    rw [ended, Outcome.ofResult, String.empty_append]
  judgesInstance store settings request json value models named single stands stored := by
    obtain ⟨text, loaded, found, loads, rfl, serves⟩ := models.serves assignment declared compiled
    rw [← named] at serves
    exact FileStore.outcome_validate found loads serves stands.settled stored
      (runInstances_single single stands.read stands.valid)
  judgesBatch store settings request documents models named batch unfiled unreported stand
      stored := by
    obtain ⟨text, loaded, found, loads, rfl, serves⟩ := models.serves assignment declared compiled
    obtain ⟨values, read, valid⟩ := documents_read stand
    have settled : (Json.array documents).settled = .array documents :=
      Json.settled_array fun json member => (stand json member).choose_spec.settled
    rw [← named] at serves
    rw [FileStore.outcome_validate found loads serves settled stored
      (runInstances_batch batch read valid unfiled unreported)]
    simp only [String.empty_append]

end TypeModule.WellFormed

namespace TypeModule

/-- A run of test cases that generates its values reports them, each at its place
with a document that reads back as the value; the document of a default instance
reads back as the instance. These are the documents that the commands print, and
a file with one of them is judged valid exactly if the document is not too deep. -/
theorem printed_instances_read_back (module : TypeModule) (accepted : module.validate = .ok ())
    (finite : module.FiniteReals) (assignment : TypeAssignment)
    (declared : assignment ∈ module.types) :
    ∃ plan, module.compile assignment.name = .ok plan ∧
      (∀ (σ : Type) (generator : TestCaseGenerator σ) (count : ℕ) (values : List Value),
        generator.module = module → generator.options.check = .ok () →
        generator.source.Faithful → generator.generate assignment.name count = .ok values →
        ∃ report, generator.report assignment.name count = .ok report ∧
          report.cases.length = count ∧ report.Tells module assignment.type plan values) ∧
      (∀ value, module.defaultOfType assignment.name = .ok value →
        ∃ json, StandsFor module assignment.type plan json value) ∧
      CommandsAgree module assignment plan := by
  have wellFormed := wellFormed_of_validate accepted
  obtain ⟨plan, compiled, accepts⟩ := wellFormed.accepting_plan accepted assignment declared
  refine ⟨plan, compiled, ?_, ?_, ?_⟩
  · intro σ generator count values serves _ faithful generated
    exact wellFormed.report_ok finite assignment declared serves faithful accepts generated
  · intro value built
    rw [wellFormed.defaultOfType_eq assignment declared] at built
    exact wellFormed.instance_stands assignment declared accepts
      (wellFormed.default_instance finite assignment declared built)
  · exact wellFormed.commands_agree finite assignment declared compiled accepts

/-- Two cases of a probe, each from the same answers of an extreme source. -/
def probeCases : TestCaseGenerator (List Bool) :=
  ⟨probes, .standard, extremes, fun _ => List.replicate 5 true⟩

theorem probes_read_back :
    probes.validate = .ok () ∧ probes.FiniteReals ∧ probe ∈ probes.types ∧
      ∃ plan report json, probes.compile probe.name = .ok plan ∧
        probeCases.report probe.name 2 = .ok report ∧ report.cases.length = 2 ∧
        report.Tells probes probe.type plan (List.replicate 2 (.sequence
          [("scale", .real .least), ("marks", .sequenceOf [.ia5String ""])])) ∧
        StandsFor probes probe.type plan json (.sequence [("scale", .real .least)]) ∧
        CommandsAgree probes probe plan := by
  obtain ⟨plan, compiled, cases, default, commands⟩ :=
    printed_instances_read_back probes rfl probes_finite probe List.mem_cons_self
  obtain ⟨report, reported, length, tells⟩ :=
    cases (List Bool) probeCases 2 _ rfl rfl extremes_faithful rfl
  obtain ⟨json, stands⟩ := default _ rfl
  exact ⟨rfl, probes_finite, List.mem_cons_self, plan, report, json, compiled, reported, length,
    tells, stands, commands⟩

/-! Instances too deep to be given back. -/

/-- Collections of one item each, one inside the other, numbered from the inside. -/
def nested (base : ℕ) (node : TypeNode) : ℕ → TypeNode
  | 0 => node
  | levels + 1 =>
    .shaped (UInt32.ofNat (base + levels + 1)) (.sequenceOf ⟨1, 1⟩ (nested base node levels))

def shelf : TypeAssignment := ⟨"Shelf", nested 0 (.reference 0 "Box") 64⟩

/-- Boxes in boxes, on shelves on shelves: neither type nests deep by itself. -/
def shelves : TypeModule :=
  ⟨modelVersion, "Shelves", [shelf, ⟨"Box", nested 64 (.shaped 0 .null) 64⟩]⟩

theorem shelves_accepted : shelves.validate = .ok () := by
  have passed : shelves.validate.isOk = true := by decide +kernel
  cases checked : shelves.validate with
  | ok => rfl
  | error error =>
      rw [checked] at passed
      cases passed

/-- What is inside of nested collections adds no real to its own. -/
theorem nested_real {base levels : ℕ} {node : TypeNode} {id : ConstraintId} {bounds : RealBounds}
    (member : .shaped id (.real bounds) ∈ (nested base node levels).nodes) :
    .shaped id (.real bounds) ∈ node.nodes := by
  induction levels with
  | zero => exact member
  | succ levels ih => exact ih (by simpa [nested, TypeNode.nodes] using member)

theorem shelves_finite : shelves.FiniteReals := by
  intro id bounds member
  have inside : .shaped id (.real bounds) ∈ shelf.type.nodes ∨
      .shaped id (.real bounds) ∈ (nested 64 (.shaped 0 .null) 64).nodes := by
    simpa only [nodes, shelves, List.flatMap_cons, List.flatMap_nil, List.append_nil,
      List.mem_append] using member
  rcases inside with inShelf | inBox
  · simpa [TypeNode.nodes] using nested_real inShelf
  · simpa [TypeNode.nodes] using nested_real inBox

theorem shelves_depth : shelves.toJson.depth ≤ Json.levelLimit := by decide +kernel

/-- How deep the document of the default instance of a type nests. -/
def defaultDepth? (module : TypeModule) (assignment : TypeAssignment) : Option ℕ := do
  let value ← (module.defaultOfType assignment.name).toOption
  let json ← (value.toJson module assignment.type).toOption
  return json.depth

theorem defaultDepth?_eq_some {module : TypeModule} {assignment : TypeAssignment} {depth : ℕ}
    (deep : module.defaultDepth? assignment = some depth) :
    ∃ value json, module.defaultOfType assignment.name = .ok value ∧
      value.toJson module assignment.type = .ok json ∧ json.depth = depth := by
  unfold defaultDepth? at deep
  cases built : module.defaultOfType assignment.name with
  | error error => simp [built, Except.toOption] at deep
  | ok value =>
      cases written : value.toJson module assignment.type with
      | error error => simp [built, written, Except.toOption] at deep
      | ok json =>
          rw [built] at deep
          simp only [Except.toOption, Option.bind_eq_bind, Option.bind_some, written] at deep
          exact ⟨value, json, rfl, written, Option.some.inj deep⟩

theorem shelf_depth : shelves.defaultDepth? shelf = some 128 := by decide +kernel

theorem loadModelText_written (module : TypeModule) (finite : module.FiniteReals)
    (shallow : module.toJson.depth ≤ Json.levelLimit) (version : module.version = modelVersion)
    (accepted : module.validate = .ok ()) :
    ∃ loaded, loadModelText module.toJson.text = .ok loaded ∧ loaded.compiled.module = module := by
  obtain ⟨loaded, made⟩ := module.compileModel_ok_iff.mpr ⟨version, accepted⟩
  refine ⟨loaded, ?_, compileModel_module made⟩
  rw [loadModelText, Json.parse_text, if_pos shallow]
  apply mapError_ok_iff.mpr
  rw [loadModel_written Json.rearranges_settled module finite]
  exact made

end TypeModule

/-! Files in the working directory. -/

/-- A name that leads from the working directory straight to an entry of it. -/
structure FileName (name : String) : Prop where
  parts : FilePath.parts ⟨name⟩ = [name]
  relative : FilePath.isAbsolute ⟨name⟩ = false
  plain : FilePath.endsInSlash ⟨name⟩ = false
  visible : name.toList.contains '\x00' = false
  short : name.utf8ByteSize ≤ FileStore.nameLimit
  named : name ≠ "" ∧ name ≠ "." ∧ name ≠ ".."

theorem FileStore.find_named {store : FileStore} {name content : String} (fileName : FileName name)
    (noDirectory : store.isDirectory (store.home ++ [name]) = false)
    (listed : store.files.lookup (store.home ++ [name]) = some content) :
    store.find ⟨name⟩ = .ok (.file content) := by
  obtain ⟨parts, relative, plain, visible, short, named, noSelf, noParent⟩ := fileName
  have within : ¬ FileStore.pathLimit ≤ name.utf8ByteSize := by
    simp only [FileStore.nameLimit, FileStore.pathLimit] at *
    omega
  have led : store.lead ⟨name⟩ = .ok ⟨store.home, some name⟩ := by
    -- That the last step is neither of the dots is among the facts about the name.
    simp only [lead, parts, relative, visible, named, within, descend, Bool.false_eq_true, if_false,
      List.dropLast_singleton, Except.map, List.getLast?_singleton]
  have entered : store.entry store.home name = .ok (.file content) := by
    simp only [entry, noDirectory, listed, Nat.not_lt.mpr short, Bool.false_eq_true, if_false]
  rw [find, led]
  simp only [entered, plain, Bool.false_eq_true, if_false]

theorem fileName_model : FileName "m.json" := by
  constructor <;> decide +kernel

theorem fileName_instance : FileName "i.json" := by
  constructor <;> decide +kernel

namespace TypeModule

/-- The shelves in a file, and an instance beside it. -/
def shelfStore (content : String) : FileStore :=
  { FileStore.empty with
    files := [(["tmp", "run", "m.json"], shelves.toJson.text),
      (["tmp", "run", "i.json"], content)] }

theorem shelfStore_models (content : String) : (shelfStore content).Models ⟨"m.json"⟩ shelves := by
  obtain ⟨loaded, loads, same⟩ := loadModelText_written shelves shelves_finite shelves_depth rfl
    shelves_accepted
  have found : (shelfStore content).find ⟨"m.json"⟩ = .ok (.file shelves.toJson.text) :=
    FileStore.find_named fileName_model rfl rfl
  exact ⟨_, loaded, found, loads, same⟩

theorem shelfStore_instance (content : String) :
    (shelfStore content).find ⟨"i.json"⟩ = .ok (.file content) :=
  FileStore.find_named fileName_instance rfl rfl

/-- What is printed for a shelf is not taken back: it nests one level too deep. -/
theorem printed_shelf_rejected :
    shelves.validate = .ok () ∧ shelves.FiniteReals ∧ shelf ∈ shelves.types ∧
      ∃ printed, (shelfStore printed).outcome .standard (.defaultInstance ⟨⟨"m.json"⟩, "Shelf"⟩) =
          ⟨0, printed, ""⟩ ∧
        ((shelfStore printed).outcome .standard (.validate
          ⟨⟨⟨"m.json"⟩, "Shelf"⟩, ⟨"i.json"⟩, false, false, none, none, 0⟩)).exitCode = 1 := by
  have wellFormed := wellFormed_of_validate shelves_accepted
  have declared : shelf ∈ shelves.types := List.mem_cons_self
  obtain ⟨plan, compiled, accepts⟩ := wellFormed.accepting_plan shelves_accepted shelf declared
  have agree := wellFormed.commands_agree shelves_finite shelf declared compiled accepts
  obtain ⟨value, json, built, written, deep⟩ := defaultDepth?_eq_some shelf_depth
  obtain ⟨other, stands, printed⟩ := agree.printsDefault (shelfStore (json.indentedText ++ "\n"))
    .standard ⟨⟨"m.json"⟩, "Shelf"⟩ value (shelfStore_models _) rfl built
  obtain rfl := Except.ok.inj (written.symm.trans stands.written)
  refine ⟨shelves_accepted, shelves_finite, declared, _, printed, ?_⟩
  rw [agree.judgesInstance _ .standard _ json value (shelfStore_models _) rfl rfl stands
    (shelfStore_instance _), if_neg (by rw [deep]; decide)]
  rfl

end TypeModule

end Asn1Constraints
