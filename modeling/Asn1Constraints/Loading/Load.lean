import Asn1Constraints.JsonSchema.Documents
import Asn1Constraints.Loading.Semantics
import Asn1Constraints.Plan.Compile

/-!
Loading a model document: the schema first, then the document as a module, then
what the schema cannot say. The first stage with an error ends the loading.
-/

namespace Asn1Constraints

structure LoadedModel where
  compiled : CompiledModule
  warnings : List Issue

namespace SchemaError

def issue (error : SchemaError) : Issue :=
  let path := if error.pointer = "" then "/" else error.pointer
  ⟨.error, "schema_violation", path, error.message, none⟩

end SchemaError

def structuralReport (schema : SchemaDocument) (document : Json) : IssueReport :=
  ⟨(schema.check document).map SchemaError.issue, []⟩

/-- The errors of a document by a schema; nothing when the schema is none. -/
def structuralReport? (schema document : Json) : Option IssueReport :=
  (SchemaDocument.ofJson? schema).map fun schema => structuralReport schema document

def compileModel (module : TypeModule) : Except IssueReport LoadedModel :=
  let semantic := module.semanticReport
  if semantic.isOk then
    match CompiledModule.ofModule module with
    | .ok compiled => .ok ⟨compiled, semantic.warnings⟩
    | .error error => .error (.single "compile_error" error.message)
  else .error semantic

/-- Load a settled document by a schema, which may be none. -/
def loadModelBy (schema? : Option SchemaDocument) (document : Json) :
    Except IssueReport LoadedModel :=
  match schema? with
  | none => .error (.single "schema_validation_error" "schema error")
  | some schema =>
    let structural := structuralReport schema document
    if structural.isOk then
      match TypeModule.ofJson document with
      | .ok module => compileModel module
      | .error fault => .error (.single "invalid_model_json" fault.message)
    else .error structural

/-- Load a settled model document. -/
def loadModel (document : Json) : Except IssueReport LoadedModel :=
  loadModelBy SchemaDocument.modelSchema? document

/-- Why a model file is not loaded. -/
inductive LoadFailure where
  | unreadable
  | rejected (report : IssueReport)

def LoadFailure.rejectedMessage (report : IssueReport) : String :=
  s!"model rejected with {report.errors.length} error(s)"

def loadModelText (text : String) : Except LoadFailure LoadedModel :=
  match Json.parse text with
  | .error _ => .error .unreadable
  | .ok document => (loadModel document).mapError .rejected

end Asn1Constraints
