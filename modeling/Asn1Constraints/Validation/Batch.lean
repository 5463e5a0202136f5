import Asn1Constraints.Validation.Walk

/-!
A batch of values against one plan: how many pass, and for every constraint
that some value violates first, how often that happens and where it happened
first.
-/

namespace Asn1Constraints

structure ConstraintStats where
  path : String
  rule : String
  violations : Nat
deriving DecidableEq, Repr

structure BatchMetrics where
  typeName : String
  checks : Nat
  instances : Nat
  passed : Nat
  failed : Nat
  /-- First violations by constraint id, in ascending order of ids. -/
  violationsById : List (ConstraintId × ConstraintStats)
deriving DecidableEq, Repr

def metricsVersion : String := "0.1"

/-- Count one more violation; the first one of an id gives its place and rule. -/
def countViolation (violation : Violation) :
    List (ConstraintId × ConstraintStats) → List (ConstraintId × ConstraintStats)
  | [] => [(violation.id, ⟨violation.path, violation.rule.text, 1⟩)]
  | (id, stats) :: rest =>
    if violation.id = id then (id, { stats with violations := stats.violations + 1 }) :: rest
    else if violation.id < id then
      (violation.id, ⟨violation.path, violation.rule.text, 1⟩) :: (id, stats) :: rest
    else (id, stats) :: countViolation violation rest

namespace BatchMetrics

def ofPlan (plan : ValidationPlan) : BatchMetrics :=
  ⟨plan.typeName, plan.checks.length, 0, 0, 0, []⟩

def record (metrics : BatchMetrics) : Except Violation Unit → BatchMetrics
  | .ok () => { metrics with instances := metrics.instances + 1, passed := metrics.passed + 1 }
  | .error violation =>
    { metrics with
      instances := metrics.instances + 1
      failed := metrics.failed + 1
      violationsById := countViolation violation metrics.violationsById }

def statsJson (stats : ConstraintStats) : Json :=
  .object [("path", .string stats.path), ("rule", .string stats.rule),
    ("violations", .ofNat stats.violations)]

def toJson (metrics : BatchMetrics) : Json :=
  .object
    [("metrics_version", .string metricsVersion), ("type_name", .string metrics.typeName),
      ("checks", .ofNat metrics.checks), ("instances", .ofNat metrics.instances),
      ("passed", .ofNat metrics.passed), ("failed", .ofNat metrics.failed),
      ("violations_by_id", .object (metrics.violationsById.map fun entry =>
        (s!"{entry.1}", statsJson entry.2)))]

end BatchMetrics

namespace ValidationPlan

/-- The metrics after each value is recorded, and the violations with the index
of their value. -/
def collectFrom (plan : ValidationPlan) :
    Nat → BatchMetrics → List Value → BatchMetrics × List (Nat × Violation)
  | _, metrics, [] => (metrics, [])
  | index, metrics, value :: rest =>
    let result := plan.validate value
    let (final, violations) := plan.collectFrom (index + 1) (metrics.record result) rest
    match result with
    | .ok () => (final, violations)
    | .error violation => (final, (index, violation) :: violations)

def collectMetrics (plan : ValidationPlan) (values : List Value) :
    BatchMetrics × List (Nat × Violation) :=
  plan.collectFrom 0 (.ofPlan plan) values

end ValidationPlan

/-! The report of a batch. -/

namespace BatchReport

def summaryLines (metrics : BatchMetrics) : List String :=
  ["# asn1rt Validation Report", "", "## Summary",
    s!"- type: {metrics.typeName}",
    s!"- checks: {metrics.checks}",
    s!"- instances: {metrics.instances}",
    s!"- passed: {metrics.passed}",
    s!"- failed: {metrics.failed}",
    ""]

def constraintLine (entry : ConstraintId × ConstraintStats) : String :=
  let stats := entry.2
  s!"| {entry.1} | {stats.path} | {stats.rule} | {stats.violations} |"

def constraintLines (metrics : BatchMetrics) : List String :=
  if metrics.violationsById.isEmpty then [] else
    ["## Violations by constraint", "| id | path | rule | violations |",
      "| --- | --- | --- | --- |"]
      ++ metrics.violationsById.map constraintLine ++ [""]

def exampleLine (entry : Nat × Violation) : String :=
  let message := entry.2.message
  s!"- instance {entry.1}: {message}"

def exampleLines (violations : List (Nat × Violation)) (maxExamples : Nat) : List String :=
  if violations.isEmpty then [] else
    ["## First violations"]
      ++ (violations.take maxExamples).map exampleLine
      ++ (if maxExamples < violations.length then
            [s!"- ... {violations.length - maxExamples} more"] else [])
      ++ [""]

/-- The report in markdown, with at most so many violations shown one by one. -/
def render (metrics : BatchMetrics) (violations : List (Nat × Violation))
    (maxExamples : Nat) : String :=
  joined "\n"
    (summaryLines metrics ++ constraintLines metrics ++ exampleLines violations maxExamples)

end BatchReport

end Asn1Constraints
