import Asn1Constraints.Validation.Rule

/-!
Running a plan on a value. Neighbouring checks that share a path segment form a
run, and a run is carried as one to each value its segment leads to: all checks
of one element come before any of the next. Absent components and alternatives
that are not selected lead nowhere. The same walk serves two readers: one that
stops at the first violation and one that collects them all.
-/

namespace Asn1Constraints

inductive CheckRun where
  | test (check : Check)
  | descend (segment : PathSegment) (runs : List CheckRun)

structure Violation where
  id : ConstraintId
  /-- The place of the value, with the index of each element on the way. -/
  path : String
  rule : CheckRule
  found : Finding

def Violation.message (violation : Violation) : String :=
  let expected := violation.rule.text
  let found := violation.found.text
  s!"constraint {violation.id} violated at {violation.path}: expected {expected}, found {found}"

namespace CheckRun

/-- Put a check before the runs of the checks that follow it. -/
def prepend (check : Check) : List PathSegment → List CheckRun → List CheckRun
  | [], runs => .test check :: runs
  | segment :: path, .descend other inner :: rest =>
    if segment = other then .descend other (prepend check path inner) :: rest
    else .descend segment (prepend check path []) :: .descend other inner :: rest
  | segment :: path, runs => .descend segment (prepend check path []) :: runs

def ofChecks : List Check → List CheckRun
  | [] => []
  | check :: rest => prepend check check.path.segments (ofChecks rest)

end CheckRun

/-- Visit the items of a collection in order, each with its index. -/
def forElements {m : Type → Type} [Monad m] (visit : Nat → Value → m Unit) :
    Nat → List Value → m Unit
  | _, [] => pure ()
  | index, item :: rest => do
    visit index item
    forElements visit (index + 1) rest

section

variable {m : Type → Type} [Monad m]

/-- What is done with a check that fails at the element indices of a place. -/
abbrev Reporter (m : Type → Type) := Check → List Nat → Finding → m Unit

mutual

def CheckRun.visit (report : Reporter m) (value : Value) (indices : List Nat) :
    CheckRun → m Unit
  | .test check =>
    match check.rule.finding? value with
    | none => pure ()
    | some found => report check indices found
  | .descend segment runs =>
    match segment, value with
    | .component name, .sequence components =>
      match components.lookup name with
      | some part => visitRuns report part indices runs
      | none => pure ()
    | .alternative name, .choice selected content =>
      if selected = name then visitRuns report content indices runs else pure ()
    | .element, .sequenceOf items =>
      forElements (fun index item => visitRuns report item (indices ++ [index]) runs) 0 items
    | _, _ => pure ()

def visitRuns (report : Reporter m) (value : Value) (indices : List Nat) :
    List CheckRun → m Unit
  | [] => pure ()
  | run :: rest => do
    run.visit report value indices
    visitRuns report value indices rest

end

end

/-- The text of a path with each element segment replaced by its index. -/
def placeText : List PathSegment → List Nat → String
  | [], _ => ""
  | .component name :: rest, indices => "." ++ name ++ placeText rest indices
  | .alternative name :: rest, indices => "::" ++ name ++ placeText rest indices
  | .element :: rest, index :: indices => s!"[{index}]" ++ placeText rest indices
  | .element :: rest, [] => "[*]" ++ placeText rest []

def violationAt (check : Check) (indices : List Nat) (found : Finding) : Violation :=
  ⟨check.id, "$" ++ placeText check.path.segments indices, check.rule, found⟩

namespace ValidationPlan

def runs (plan : ValidationPlan) : List CheckRun :=
  CheckRun.ofChecks plan.checks

def refuse (check : Check) (indices : List Nat) (found : Finding) : Except Violation Unit :=
  .error (violationAt check indices found)

def collect (check : Check) (indices : List Nat) (found : Finding) :
    StateM (List Violation) Unit :=
  modify (violationAt check indices found :: ·)

/-- Stop at the first violation. -/
def validate (plan : ValidationPlan) (value : Value) : Except Violation Unit :=
  visitRuns refuse value [] plan.runs

/-- Every violation in the order of the walk. -/
def validateAll (plan : ValidationPlan) (value : Value) : List Violation :=
  ((visitRuns collect value [] plan.runs).run []).2.reverse

/-- The id of the first violation, 0 when there is none. -/
structure Outcome where
  errorCode : ConstraintId

def Outcome.isValid (outcome : Outcome) : Bool := outcome.errorCode == 0

def validateOutcome (plan : ValidationPlan) (value : Value) : Outcome :=
  match plan.validate value with
  | .ok () => ⟨0⟩
  | .error violation => ⟨violation.id⟩

end ValidationPlan

end Asn1Constraints
