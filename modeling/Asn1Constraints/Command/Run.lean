import Asn1Constraints.Command.Arguments
import Asn1Constraints.Files.System
import Asn1Constraints.Command.Settings
import Asn1Constraints.Instances.TestCases
import Asn1Constraints.Loading.Load
import Asn1Constraints.Plan.Document
import Asn1Constraints.Validation.Batch

/-!
Running the command. What it prints is kept until it ends, also when it fails;
files are read and written through the file system it is given.
-/

namespace Asn1Constraints

inductive CommandError where
  | file (error : FileError)
  | unreadableDocument
  | settings (error : SettingsError)
  | rejectedModel (report : IssueReport)
  | model (error : Error)
  | options (error : OptionsError)
  | rejectedInstance (violation : Violation)
  | rejectedBatch (failed instances : Nat)
  | notABatch
  | notAnOutputPath (path : FilePath)

namespace CommandError

def configurationMessage (reason : String) : String := s!"invalid configuration: {reason}"

/-- What is printed of an error. The readers of JSON and of settings say in words of
their own what they stumbled over; here one text stands for all of these. -/
def message : CommandError → String
  | .file error =>
    let reason := error.message
    s!"io error: {reason}"
  | .unreadableDocument => "json error: the text is not JSON"
  | .settings .unreadable =>
    let reason := SettingsError.message .unreadable
    s!"settings error: {reason}"
  | .settings .noTestCases => configurationMessage (SettingsError.message .noTestCases)
  | .rejectedModel report => LoadFailure.rejectedMessage report
  | .model error => error.message
  | .options error => error.message
  | .rejectedInstance violation => s!"instance rejected: {violation.message}"
  | .rejectedBatch failed instances => s!"{failed} of {instances} instance(s) rejected"
  | .notABatch => configurationMessage "--batch expects a JSON array of instances"
  | .notAnOutputPath path => configurationMessage s!"invalid output path: {path.text}"

end CommandError

/-- What has been printed so far. -/
structure Console where
  output : String
  errors : String
deriving DecidableEq, Repr

/-- A run that prints, uses files, and may fail. -/
abbrev Session (m : Type → Type) := ExceptT CommandError (StateT Console m)

namespace Session

section

variable {m : Type → Type} [Monad m] {α : Type}

def print (line : String) : Session m Unit :=
  modify fun console => { console with output := console.output ++ line ++ "\n" }

def printError (line : String) : Session m Unit :=
  modify fun console => { console with errors := console.errors ++ line ++ "\n" }

def printAll : List String → Session m Unit
  | [] => pure ()
  | line :: rest => do
    print line
    printAll rest

def printErrors : List String → Session m Unit
  | [] => pure ()
  | line :: rest => do
    printError line
    printErrors rest

def printJson (json : Json) : Session m Unit := print json.indentedText

def stop (error : CommandError) : Session m α := throw error

def file (call : m (Except FileError α)) : Session m α := do
  match ← (monadLift call : StateT Console m (Except FileError α)) with
  | .ok result => return result
  | .error error => stop (.file error)

def model (result : Except Error α) : Session m α :=
  match result with
  | .ok value => return value
  | .error error => stop (.model error)

end

end Session

open Session

section

variable {m : Type → Type} [Monad m] (files : FileSystem m)

def readSettings (config : FilePath) : Session m Settings := do
  if ← (monadLift (files.isPresent config) : StateT Console m Bool) then
    let content ← file (files.read config)
    match Settings.ofText content with
    | .ok settings => return settings
    | .error error => stop (.settings error)
  else return Settings.standard

def readModel (path : FilePath) : Session m LoadedModel := do
  let content ← file (files.read path)
  match loadModelText content with
  | .ok loaded => return loaded
  | .error .unreadable => stop .unreadableDocument
  | .error (.rejected report) =>
    printErrors ((report.errors ++ report.warnings).map Issue.text)
    stop (.rejectedModel report)

def readDocument (path : FilePath) : Session m Json := do
  let content ← file (files.read path)
  match Json.parse content with
  | .ok document => return document
  | .error _ => stop .unreadableDocument

/-- Write a whole file: first beside it, then in its place, so that nobody sees
a part of it. -/
def writeFile (path : FilePath) (content : String) : Session m Unit := do
  match path.directory? with
  | some directory => unless directory.text = "" do file (files.makeDirectories directory)
  | none => pure ()
  match path.fileName? with
  | none => stop (.notAnOutputPath path)
  | some name =>
    let draft := path.sibling (name ++ ".tmp")
    file (files.write draft content)
    file (files.rename draft path)

/-- Write a document to a file, or print it when there is no file for it. -/
def deliver (output : Option FilePath) (json : Json) : Session m Unit :=
  match output with
  | some path => writeFile files path (json.indentedText ++ "\n")
  | none => printJson json

/-! The commands. -/

def planLine (compiled : CompiledModule) (typeName : String) : Except Error String :=
  (compiled.requirePlan typeName).map fun plan =>
    s!"  {typeName}: {plan.checks.length} check(s), root id {plan.rootId}"

def moduleLine (name : String) (graph : ReferenceReport) (warnings : List Issue) : String :=
  s!"module {name}: {graph.nodes} type(s), {graph.edges} reference(s), "
    ++ s!"{warnings.length} warning(s)"

def runCheck (path : FilePath) : Session m Unit := do
  let loaded ← readModel files path
  let module := loaded.compiled.module
  let graph := module.referenceGraph.report
  print (moduleLine module.name graph loaded.warnings)
  match graph.order with
  | .ordered names => printAll (← model (names.mapM (planLine loaded.compiled)))
  | .cyclic _ => pure ()

def runPlan (target : Target) (output : Option FilePath) : Session m Unit := do
  let loaded ← readModel files target.model
  let plan ← model (loaded.compiled.requirePlan target.typeName)
  deliver files output plan.toJson

def runDefault (target : Target) : Session m Unit := do
  let loaded ← readModel files target.model
  let module := loaded.compiled.module
  let node ← model (loaded.compiled.typeNode target.typeName)
  let value ← model (module.defaultInstance node)
  printJson (← model (value.toJson module node))

def runSingle (plan : ValidationPlan) (all : Bool) (value : Value) : Session m Unit := do
  if all then
    let violations := plan.validateAll value
    printAll (violations.map Violation.message)
    match violations with
    | violation :: _ => stop (.rejectedInstance violation)
    | [] => pure ()
  else
    match plan.validate value with
    | .error violation => stop (.rejectedInstance violation)
    | .ok () => pure ()
  print "valid"

def runBatch (request : ValidateRequest) (plan : ValidationPlan) (values : List Value) :
    Session m Unit := do
  let (metrics, violations) := plan.collectMetrics values
  deliver files request.metrics metrics.toJson
  match request.report with
  | some path => writeFile files path (BatchReport.render metrics violations request.maxExamples)
  | none => pure ()
  if 0 < metrics.failed then stop (.rejectedBatch metrics.failed metrics.instances)

def runValidate (request : ValidateRequest) : Session m Unit := do
  let loaded ← readModel files request.target.model
  let module := loaded.compiled.module
  let node ← model (loaded.compiled.typeNode request.target.typeName)
  let plan ← model (loaded.compiled.requirePlan request.target.typeName)
  let document ← readDocument files request.instances
  if request.batch then
    match document.array? with
    | none => stop .notABatch
    | some items => runBatch files request plan (← model (items.mapM (Value.ofJson module node)))
  else runSingle plan request.all (← model (Value.ofJson module node document))

def runTestCases (request : TestCasesRequest) (settings : Settings) : Session m Unit := do
  let loaded ← readModel files request.target.model
  let options : TestCaseOptions :=
    { TestCaseOptions.standard with
      seed := request.seed.getD settings.testCaseSeed
      maxCollectionLen := request.maxCollectionLen.getD settings.maxCollectionLen }
  let count := request.count.getD settings.testCaseCount
  match options.check with
  | .error error => stop (.options error)
  | .ok () =>
    let generator := TestCaseGenerator.standard loaded.compiled.module options
    let report ← model (generator.report request.target.typeName count.toNat)
    deliver files request.output report.toJson

def runSchema (kind : SchemaKind) : Session m Unit :=
  match kind with
  | .model => printJson SchemaDocument.modelDocument
  | .plan => printJson SchemaDocument.planDocument

def runCommand (settings : Settings) : Command → Session m Unit
  | .check path => runCheck files path
  | .plan target output => runPlan files target output
  | .defaultInstance target => runDefault files target
  | .validate request => runValidate files request
  | .testCases request => runTestCases files request settings
  | .schema kind => runSchema kind

/-- The settings first, then the log file, then the command itself. -/
def runInvocation (invocation : Invocation) : Session m Unit := do
  let settings ← readSettings files invocation.config
  match invocation.logFile.orElse fun () => settings.logFile.map FilePath.mk with
  | some path => file (files.append path)
  | none => pure ()
  runCommand files settings invocation.command

end

/-- How a run ends: the exit code and all that was printed. -/
structure Outcome where
  exitCode : UInt8
  output : String
  errors : String
deriving DecidableEq, Repr

/-- How the command is used. One summary stands for the pages that the reader of
arguments has for the command and each of its parts, and for what it says of a
misuse. -/
def usageText : String :=
  "usage: asn1rt [--config FILE] [--log-level FILTER] [--log-json] [--log-file FILE] COMMAND\n\n"
    ++ "  check MODEL\n"
    ++ "  plan MODEL TYPE [--out FILE]\n"
    ++ "  init MODEL TYPE\n"
    ++ "  validate MODEL TYPE INSTANCE [--batch] [--all] [--report FILE] [--metrics FILE]\n"
    ++ "           [--max-examples N]\n"
    ++ "  testcases MODEL TYPE [--count N] [--seed N] [--max-collection-len N] [--out FILE]\n"
    ++ "  schema [model|plan]\n"

def versionText : String := "asn1rt 0.1.0\n"

def Outcome.ofResult (result : Except CommandError Unit) (console : Console) : Outcome :=
  match result with
  | .ok () => ⟨0, console.output, console.errors⟩
  | .error error =>
    let reason := error.message
    ⟨1, console.output, console.errors ++ s!"error: {reason}\n"⟩

/-- Run the command line. -/
def CommandLine.run {m : Type → Type} [Monad m] (files : FileSystem m) :
    CommandLine → m Outcome
  | .help => pure ⟨0, usageText, ""⟩
  | .version => pure ⟨0, versionText, ""⟩
  | .misused => pure ⟨2, "", usageText⟩
  | .invoke invocation => do
    let (result, console) ← (runInvocation files invocation).run.run ⟨"", ""⟩
    return .ofResult result console

end Asn1Constraints
