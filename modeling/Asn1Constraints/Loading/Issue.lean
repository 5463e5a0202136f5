/-!
Issues found while a model is loaded: where they are, what they are, and what
may help. Only errors stop a model from being loaded.
-/

namespace Asn1Constraints

inductive Severity where
  | error
  | warning
deriving DecidableEq, Repr

structure Issue where
  severity : Severity
  code : String
  /-- JSON pointer into the model document, `/` for all of it. -/
  path : String
  message : String
  hint : Option String
deriving DecidableEq, Repr

structure IssueReport where
  errors : List Issue
  warnings : List Issue
deriving DecidableEq, Repr

def Severity.label : Severity → String
  | .error => "error"
  | .warning => "warning"

def Issue.text (issue : Issue) : String :=
  let line := s!"{issue.severity.label}[{issue.code}] {issue.path}: {issue.message}"
  match issue.hint with
  | some hint => s!"{line} (hint: {hint})"
  | none => line

namespace IssueReport

def empty : IssueReport := ⟨[], []⟩

def isOk (report : IssueReport) : Bool := report.errors.isEmpty

def addError (report : IssueReport) (issue : Issue) : IssueReport :=
  { report with errors := report.errors ++ [issue] }

def addWarning (report : IssueReport) (issue : Issue) : IssueReport :=
  { report with warnings := report.warnings ++ [issue] }

def merge (report other : IssueReport) : IssueReport :=
  ⟨report.errors ++ other.errors, report.warnings ++ other.warnings⟩

def single (code message : String) : IssueReport :=
  ⟨[⟨.error, code, "/", message, none⟩], []⟩

end IssueReport

end Asn1Constraints
