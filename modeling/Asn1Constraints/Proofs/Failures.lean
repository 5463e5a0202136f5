import Asn1Constraints.Validation.Walk
import Mathlib

/-!
The failures a walk meets, as a list. What a reader does with them is a matter
of the reader: every walk is the same list gone through in order, so stopping
at the first failure and collecting all of them agree.
-/

namespace Asn1Constraints

/-- A check that is not met, with the index of each element on the way to the value. -/
structure Failure where
  check : Check
  indices : List Nat
  found : Finding

namespace Failure

def violation (failure : Failure) : Violation :=
  violationAt failure.check failure.indices failure.found

/-- The failure seen from further up. -/
def beneath (steps : List Nat) (failure : Failure) : Failure :=
  { failure with indices := steps ++ failure.indices }

end Failure

/-- The values a segment leads to, each with the index it adds to the way: the
first component of the name, the content of the alternative if it is selected,
every element of a collection. -/
def PathSegment.targets (segment : PathSegment) (value : Value) : List (List Nat × Value) :=
  match segment, value with
  | .component name, .sequence components =>
    (components.lookup name).toList.map fun part => ([], part)
  | .alternative name, .choice selected content =>
    if selected = name then [([], content)] else []
  | .element, .sequenceOf items => items.zipIdx.map fun entry => ([entry.2], entry.1)
  | _, _ => []

theorem target_length (segment : PathSegment) (value : Value) :
    ∀ target ∈ segment.targets value, target.1.length = [segment].count .element := by
  cases segment with
  | component name => cases value <;> simp +contextual [PathSegment.targets]
  | alternative name => cases value <;> simp +contextual [PathSegment.targets]
  | element =>
      cases value with
      | sequenceOf items =>
          intro target member
          obtain ⟨entry, _, rfl⟩ := List.mem_map.mp member
          simp
      | _ => simp [PathSegment.targets]

theorem placeText_cons (segment : PathSegment) (path : List PathSegment) (steps indices : List Nat)
    (counted : steps.length = [segment].count .element) :
    placeText (segment :: path) (steps ++ indices) =
      placeText [segment] steps ++ placeText path indices := by
  cases segment with
  | component name =>
      obtain rfl : steps = [] := by simpa using counted
      simp [placeText]
  | alternative name =>
      obtain rfl : steps = [] := by simpa using counted
      simp [placeText]
  | element =>
      obtain ⟨index, rfl⟩ : ∃ index, steps = [index] :=
        List.length_eq_one_iff.mp (by simpa using counted)
      simp [placeText]

mutual

def CheckRun.failures (value : Value) : CheckRun → List Failure
  | .test check => (check.rule.finding? value).toList.map fun found => ⟨check, [], found⟩
  | .descend segment runs =>
    (segment.targets value).flatMap fun target =>
      (runFailures target.2 runs).map (·.beneath target.1)

def runFailures (value : Value) : List CheckRun → List Failure
  | [] => []
  | run :: rest => run.failures value ++ runFailures value rest

end

theorem runFailures_append (value : Value) (runs others : List CheckRun) :
    runFailures value (runs ++ others) = runFailures value runs ++ runFailures value others := by
  induction runs with
  | nil => simp [runFailures]
  | cons run rest ih => simp [runFailures, ih]

section Readers

variable {m : Type → Type} [Monad m]

def Failure.report (report : Reporter m) (indices : List Nat) (failure : Failure) : m Unit :=
  report failure.check (indices ++ failure.indices) failure.found

theorem forElements_eq_forM (visit : Nat → Value → m Unit) (start : Nat) (items : List Value) :
    forElements visit start items =
      forM (items.zipIdx start) fun entry => visit entry.2 entry.1 := by
  induction items generalizing start with
  | nil => simp [forElements]
  | cons item rest ih => simp [forElements, ih]

variable [LawfulMonad m]

theorem forM_flatMap {α β : Type} (items : List α) (parts : α → List β) (visit : β → m Unit) :
    forM (items.flatMap parts) visit = forM items fun item => forM (parts item) visit := by
  induction items with
  | nil => simp
  | cons item rest ih => simp [ih]

mutual

theorem CheckRun.visit_eq_forM (report : Reporter m) (value : Value) (indices : List Nat) :
    ∀ run : CheckRun, run.visit report value indices =
      forM (run.failures value) (Failure.report report indices)
  | .test check => by
      cases met : check.rule.finding? value <;>
        simp [CheckRun.visit, CheckRun.failures, met, Failure.report]
  | .descend segment runs => by
      have below : ∀ target : List Nat × Value,
          visitRuns report target.2 (indices ++ target.1) runs =
            forM ((runFailures target.2 runs).map (·.beneath target.1))
              (Failure.report report indices) := by
        intro target
        have shifted : Failure.report report (indices ++ target.1) =
            fun failure => Failure.report report indices (failure.beneath target.1) := by
          funext failure
          simp [Failure.report, Failure.beneath]
        rw [visitRuns_eq_forM report target.2 (indices ++ target.1) runs, shifted]
        simp
      rw [CheckRun.failures, forM_flatMap]
      -- A segment has its targets in the order in which the visit goes into them.
      simp only [← below]
      cases segment with
      | component name =>
          cases value with
          | sequence components =>
              cases found : components.lookup name <;>
                simp [CheckRun.visit, PathSegment.targets, found]
          | _ => simp [CheckRun.visit, PathSegment.targets]
      | alternative name =>
          cases value with
          | choice selected content =>
              by_cases same : selected = name <;>
                simp [CheckRun.visit, PathSegment.targets, same]
          | _ => simp [CheckRun.visit, PathSegment.targets]
      | element =>
          cases value <;> simp [CheckRun.visit, PathSegment.targets, forElements_eq_forM]

theorem visitRuns_eq_forM (report : Reporter m) (value : Value) (indices : List Nat) :
    ∀ runs : List CheckRun, visitRuns report value indices runs =
      forM (runFailures value runs) (Failure.report report indices)
  | [] => by simp [visitRuns, runFailures]
  | run :: rest => by
      rw [visitRuns, runFailures, CheckRun.visit_eq_forM report value indices run,
        visitRuns_eq_forM report value indices rest]
      simp

end

end Readers

namespace ValidationPlan

theorem refuse_first (failures : List Failure) :
    forM failures (Failure.report refuse []) =
      match failures with
      | [] => .ok ()
      | failure :: _ => .error failure.violation := by
  cases failures with
  | nil => rfl
  | cons failure rest => rfl

theorem collect_all (failures : List Failure) (collected : List Violation) :
    ((forM failures (Failure.report collect [])).run collected).2 =
      (failures.map Failure.violation).reverse ++ collected := by
  induction failures generalizing collected with
  | nil => rfl
  | cons failure rest ih =>
      have later := ih (failure.violation :: collected)
      rw [List.map_cons, List.reverse_cons, List.append_assoc]
      exact later

/-- What running the plan on a value meets, in order. -/
def failures (plan : ValidationPlan) (value : Value) : List Failure :=
  runFailures value plan.runs

theorem validateAll_eq_map (plan : ValidationPlan) (value : Value) :
    plan.validateAll value = (plan.failures value).map Failure.violation := by
  rw [validateAll, visitRuns_eq_forM, collect_all, List.append_nil, List.reverse_reverse]
  rfl

theorem validate_eq_head (plan : ValidationPlan) (value : Value) :
    plan.validate value =
      match plan.failures value with
      | [] => .ok ()
      | failure :: _ => .error failure.violation := by
  rw [validate, visitRuns_eq_forM, refuse_first]
  rfl

theorem validate_ok_iff_no_failures (plan : ValidationPlan) (value : Value) :
    plan.validate value = .ok () ↔ plan.failures value = [] := by
  rw [validate_eq_head]
  cases plan.failures value <;> simp

/-- Stopping at the first failure reports what comes first when all are collected,
and nothing if and only if there is nothing to collect. -/
theorem validate_reports_first (plan : ValidationPlan) (value : Value) :
    (plan.validate value = .ok () ↔ plan.validateAll value = []) ∧
      ∀ violation, plan.validate value = .error violation ↔
        (plan.validateAll value).head? = some violation := by
  rw [validate_eq_head, validateAll_eq_map]
  cases plan.failures value with
  | nil => simp
  | cons failure rest => simp

end ValidationPlan

end Asn1Constraints
