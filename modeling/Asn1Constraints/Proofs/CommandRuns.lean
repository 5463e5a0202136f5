import Asn1Constraints.Command.Run
import Asn1Constraints.Files.Store
import Asn1Constraints.Proofs.BoundaryCalls
import Asn1Constraints.Proofs.IndentedDocuments
import Asn1Constraints.Proofs.SettledDocuments
import Mathlib

/-!
Runs of the command that only read files. Such a run leaves the store as it is,
so all there is to say of it is how it ends and what it has printed by then.
-/

namespace Asn1Constraints

namespace Session

variable {α β : Type}

/-- On the store, and after what is printed already, the session ends with the
result and has printed what stands after it; the store stays as it is. -/
def Runs (session : Session (StateM FileStore) α) (store : FileStore) (before : Console)
    (result : Except CommandError α) (after : Console) : Prop :=
  (session.run.run before).run store = ((result, after), store)

namespace Runs

variable {store : FileStore} {before between after : Console}
  {session : Session (StateM FileStore) α} {next : α → Session (StateM FileStore) β}

theorem pure (value : α) :
    (pure value : Session (StateM FileStore) α).Runs store before (.ok value) before :=
  rfl

theorem stop (error : CommandError) :
    (Session.stop error : Session (StateM FileStore) α).Runs store before (.error error) before :=
  rfl

theorem print (line : String) :
    (Session.print line : Session (StateM FileStore) Unit).Runs store before (.ok ())
      { before with output := before.output ++ line ++ "\n" } :=
  rfl

theorem bind {value : α} {result : Except CommandError β}
    (first : session.Runs store before (.ok value) between)
    (rest : (next value).Runs store between result after) :
    (session >>= next).Runs store before result after := by
  unfold Runs at first rest ⊢
  simp only [ExceptT.run_bind, StateT.run_bind, first]
  exact rest

theorem bind_error {error : CommandError} (first : session.Runs store before (.error error) after) :
    (session >>= next).Runs store before (.error error) after := by
  unfold Runs at first ⊢
  simp only [ExceptT.run_bind, StateT.run_bind, first]
  rfl

theorem model {result : Except Error α} {value : α} (made : result = .ok value) :
    (Session.model result : Session (StateM FileStore) α).Runs store before (.ok value) before := by
  subst made
  rfl

theorem lift {call : StateM FileStore α} {value : α} (called : call store = (value, store)) :
    (monadLift call : Session (StateM FileStore) α).Runs store before (.ok value) before := by
  change ((Except.ok (call store).1, before), (call store).2) = _
  rw [called]

theorem read {path : FilePath} {content : String} (found : store.find path = .ok (.file content)) :
    (Session.file (FileStore.system.read path)).Runs store before (.ok content) before := by
  have called : FileStore.system.read path store = (.ok content, store) := by
    change FileStore.read path store = _
    rw [FileStore.read, found]
  exact bind (lift called) (pure content)

end Runs

end Session

/-- How a command ends on the files of a store. -/
def FileStore.outcome (store : FileStore) (settings : Settings) (command : Command) : Outcome :=
  let ran := ((runCommand FileStore.system settings command).run.run ⟨"", ""⟩).run store
  .ofResult ran.1.1 ran.1.2

theorem Session.Runs.outcome {store : FileStore} {settings : Settings} {command : Command}
    {result : Except CommandError Unit} {printed : Console}
    (runs : (runCommand FileStore.system settings command).Runs store ⟨"", ""⟩ result printed) :
    store.outcome settings command = .ofResult result printed := by
  unfold Session.Runs at runs
  rw [FileStore.outcome, runs]

/-- Under the path there is a model file that is loaded as the module. -/
def FileStore.Models (store : FileStore) (path : FilePath) (module : TypeModule) : Prop :=
  ∃ text loaded, store.find path = .ok (.file text) ∧ loadModelText text = .ok loaded ∧
    loaded.compiled.module = module

open Session

variable {store : FileStore} {before : Console} {path : FilePath}

theorem readModel_runs {text : String} {loaded : LoadedModel}
    (found : store.find path = .ok (.file text)) (loads : loadModelText text = .ok loaded) :
    (readModel FileStore.system path).Runs store before (.ok loaded) before := by
  refine Runs.bind (Runs.read found) ?_
  rw [loads]
  exact Runs.pure loaded

theorem readDocument_runs {json : Json} (settled : json.settled = json)
    (found : store.find path = .ok (.file (json.indentedText ++ "\n"))) :
    (readDocument FileStore.system path).Runs store before
      (if json.depth ≤ Json.levelLimit then .ok json else .error .unreadableDocument) before := by
  refine Runs.bind (Runs.read found) ?_
  rw [Json.parse_indentedLine, settled]
  by_cases shallow : json.depth ≤ Json.levelLimit
  · rw [if_pos shallow, if_pos shallow]
    exact Runs.pure json
  · rw [if_neg shallow, if_neg shallow]
    exact Runs.stop _

/-! Printing instances. -/

theorem runDefault_runs {target : Target} {text : String} {loaded : LoadedModel}
    (found : store.find target.model = .ok (.file text)) (loads : loadModelText text = .ok loaded)
    {node : TypeNode} (located : loaded.compiled.typeNode target.typeName = .ok node)
    {value : Value} (built : loaded.compiled.module.defaultInstance node = .ok value)
    {json : Json} (written : value.toJson loaded.compiled.module node = .ok json) :
    (runDefault FileStore.system target).Runs store before (.ok ())
      { before with output := before.output ++ json.indentedText ++ "\n" } :=
  Runs.bind (readModel_runs found loads) <| Runs.bind (Runs.model located) <|
    Runs.bind (Runs.model built) <| Runs.bind (Runs.model written) (Runs.print _)

/-- The generator that the options of a request and the settings come to. -/
def TestCasesRequest.generator (request : TestCasesRequest) (settings : Settings)
    (module : TypeModule) : TestCaseGenerator ChaChaStream :=
  .standard module
    { TestCaseOptions.standard with
      seed := request.seed.getD settings.testCaseSeed
      maxCollectionLen := request.maxCollectionLen.getD settings.maxCollectionLen }

def TestCasesRequest.cases (request : TestCasesRequest) (settings : Settings) : ℕ :=
  (request.count.getD settings.testCaseCount).toNat

theorem runTestCases_runs {request : TestCasesRequest} {settings : Settings} {text : String}
    {loaded : LoadedModel} (found : store.find request.target.model = .ok (.file text))
    (loads : loadModelText text = .ok loaded) (printed : request.output = none)
    {report : TestCaseReport}
    (reported : (request.generator settings loaded.compiled.module).report
      request.target.typeName (request.cases settings) = .ok report) :
    (runTestCases FileStore.system request settings).Runs store before (.ok ())
      { before with output := before.output ++ report.toJson.indentedText ++ "\n" } := by
  refine Runs.bind (readModel_runs found loads) ?_
  have admitted : (request.generator settings loaded.compiled.module).options.check = .ok () := by
    rfl
  simp only [TestCasesRequest.generator, TestCaseGenerator.standard] at admitted
  simp only [admitted, printed]
  exact Runs.bind (Runs.model reported) (Runs.print _)

/-! Validating instances. -/

theorem runSingle_runs {plan : ValidationPlan} {value : Value}
    (valid : plan.validate value = .ok ()) (all : Bool) :
    (runSingle plan all value : Session (StateM FileStore) Unit).Runs store before (.ok ())
      { before with output := before.output ++ "valid" ++ "\n" } := by
  cases all with
  | true =>
      have none : plan.validateAll value = [] := by
        rw [ValidationPlan.validateAll_eq_reports]
        exact (plan.validate_ok_iff_no_reports value).mp valid
      simp only [runSingle, if_true, none]
      exact Runs.bind (Runs.pure ()) (Runs.print _)
  | false =>
      simp only [runSingle, valid]
      exact Runs.print _

/-- The metrics of values that are all valid, from any metrics on. -/
theorem ValidationPlan.collectFrom_valid {plan : ValidationPlan} (values : List Value)
    (valid : ∀ value ∈ values, plan.validate value = .ok ()) (index : ℕ) (metrics : BatchMetrics) :
    plan.collectFrom index metrics values =
      ({ metrics with
          instances := metrics.instances + values.length
          passed := metrics.passed + values.length }, []) := by
  induction values generalizing index metrics with
  | nil => rfl
  | cons value rest ih =>
      obtain ⟨own, others⟩ := List.forall_mem_cons.mp valid
      rw [collectFrom, own, ih others]
      simp only [BatchMetrics.record, List.length_cons]
      congr 2 <;> omega

/-- The metrics of so many values that all pass. -/
def BatchMetrics.allPassed (plan : ValidationPlan) (instances : ℕ) : BatchMetrics :=
  { ofPlan plan with instances, passed := instances }

theorem ValidationPlan.collectMetrics_valid {plan : ValidationPlan} {values : List Value}
    (valid : ∀ value ∈ values, plan.validate value = .ok ()) :
    plan.collectMetrics values = (.allPassed plan values.length, []) := by
  rw [collectMetrics, collectFrom_valid values valid]
  simp only [BatchMetrics.allPassed, BatchMetrics.ofPlan, Nat.zero_add]

theorem runBatch_runs {plan : ValidationPlan} {values : List Value}
    (valid : ∀ value ∈ values, plan.validate value = .ok ()) {request : ValidateRequest}
    (unfiled : request.metrics = none) (unreported : request.report = none) :
    (runBatch FileStore.system request plan values).Runs store before (.ok ())
      { before with output := before.output ++
          (BatchMetrics.allPassed plan values.length).toJson.indentedText ++ "\n" } := by
  simp only [runBatch, ValidationPlan.collectMetrics_valid valid, unfiled, unreported]
  exact Runs.bind (Runs.print _) (Runs.pure ())

/-- What a validate command does with the document of the instances. -/
def runInstances (request : ValidateRequest) (module : TypeModule) (node : TypeNode)
    (plan : ValidationPlan) (document : Json) : Session (StateM FileStore) Unit := do
  if request.batch then
    match document.array? with
    | none => stop .notABatch
    | some items =>
      runBatch FileStore.system request plan (← model (items.mapM (Value.ofJson module node)))
  else runSingle plan request.all (← model (Value.ofJson module node document))

theorem runInstances_single {request : ValidateRequest} {module : TypeModule} {node : TypeNode}
    {plan : ValidationPlan} {json : Json} {value : Value} (single : request.batch = false)
    (read : Value.ofJson module node json = .ok value) (valid : plan.validate value = .ok ()) :
    (runInstances request module node plan json).Runs store before (.ok ())
      { before with output := before.output ++ "valid" ++ "\n" } := by
  simp only [runInstances, single, Bool.false_eq_true, if_false]
  exact Runs.bind (Runs.model read) (runSingle_runs valid request.all)

theorem runInstances_batch {request : ValidateRequest} {module : TypeModule} {node : TypeNode}
    {plan : ValidationPlan} {items : List Json} {values : List Value}
    (batch : request.batch = true) (read : items.mapM (Value.ofJson module node) = .ok values)
    (valid : ∀ value ∈ values, plan.validate value = .ok ())
    (unfiled : request.metrics = none) (unreported : request.report = none) :
    (runInstances request module node plan (.array items)).Runs store before (.ok ())
      { before with output := before.output ++
          (BatchMetrics.allPassed plan items.length).toJson.indentedText ++ "\n" } := by
  simp only [runInstances, batch, if_true, Json.array?, (mapM_ok_forall₂ read).length_eq]
  exact Runs.bind (Runs.model read) (runBatch_runs valid unfiled unreported)

/-- A validate command comes to its instances if their document is not too deep. -/
theorem runValidate_runs {request : ValidateRequest} {text : String} {loaded : LoadedModel}
    (found : store.find request.target.model = .ok (.file text))
    (loads : loadModelText text = .ok loaded) {node : TypeNode} {plan : ValidationPlan}
    (serves : loaded.compiled.Serves request.target.typeName plan node) {json : Json}
    (settled : json.settled = json)
    (stored : store.find request.instances = .ok (.file (json.indentedText ++ "\n")))
    {result : Except CommandError Unit} {after : Console}
    (judged : (runInstances request loaded.compiled.module node plan json).Runs store before
      result after) :
    (runValidate FileStore.system request).Runs store before
      (if json.depth ≤ Json.levelLimit then result else .error .unreadableDocument)
      (if json.depth ≤ Json.levelLimit then after else before) := by
  refine Runs.bind (readModel_runs found loads) <| Runs.bind (Runs.model serves.located) <|
    Runs.bind (Runs.model serves.planned) ?_
  -- Up to here nothing depends on the document; a deep one is given up when it is read.
  have document : (readDocument FileStore.system request.instances).Runs store before _ before :=
    readDocument_runs settled stored
  by_cases shallow : json.depth ≤ Json.levelLimit
  · rw [if_pos shallow] at document
    rw [if_pos shallow, if_pos shallow]
    exact Runs.bind document judged
  · rw [if_neg shallow] at document
    rw [if_neg shallow, if_neg shallow]
    exact Runs.bind_error document

/-- How a validate command ends whose instances pass, if it gets to read them. -/
theorem FileStore.outcome_validate {settings : Settings} {request : ValidateRequest} {text : String}
    {loaded : LoadedModel} (found : store.find request.target.model = .ok (.file text))
    (loads : loadModelText text = .ok loaded) {node : TypeNode} {plan : ValidationPlan}
    (serves : loaded.compiled.Serves request.target.typeName plan node) {json : Json}
    (settled : json.settled = json)
    (stored : store.find request.instances = .ok (.file (json.indentedText ++ "\n")))
    {printed : Console}
    (judged : (runInstances request loaded.compiled.module node plan json).Runs store ⟨"", ""⟩
      (.ok ()) printed) :
    store.outcome settings (.validate request) =
      if json.depth ≤ Json.levelLimit then ⟨0, printed.output, printed.errors⟩
      else .ofResult (.error .unreadableDocument) ⟨"", ""⟩ := by
  have ended : store.outcome settings (.validate request) = .ofResult _ _ :=
    Session.Runs.outcome (runValidate_runs found loads serves settled stored judged)
  rw [ended]
  by_cases shallow : json.depth ≤ Json.levelLimit
  · simp only [if_pos shallow, Outcome.ofResult]
  · simp only [if_neg shallow]

end Asn1Constraints
