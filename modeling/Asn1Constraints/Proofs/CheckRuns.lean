import Asn1Constraints.Proofs.Failures
import Mathlib

/-!
Checks put together from parts. Checks below one segment run as they do by
themselves on each value the segment leads to, and checks that start with
different segments do not mix. What a list of checks reports can therefore be
read off the lists it is put together from.
-/

namespace Asn1Constraints

/-- The check seen from further up, where its own path starts at `path`. -/
def Check.below (path : FieldPath) (check : Check) : Check :=
  { check with path := ⟨path.segments ++ check.path.segments⟩ }

def Check.under (segment : PathSegment) : Check → Check :=
  Check.below ⟨[segment]⟩

theorem Check.below_root : Check.below .root = fun check => check := rfl

theorem Check.below_push (path : FieldPath) (segment : PathSegment) (check : Check) :
    check.below (path.push segment) = (check.under segment).below path := by
  simp [below, under, FieldPath.push]

/-- Where a check applies first. -/
def Check.start? (check : Check) : Option PathSegment := check.path.segments.head?

theorem Check.start?_under (segment : PathSegment) (check : Check) :
    (check.under segment).start? = some segment := rfl

/-! The same runs for other checks. -/

mutual

def CheckRun.relabel (f : Check → Check) : CheckRun → CheckRun
  | .test check => .test (f check)
  | .descend segment runs => .descend segment (relabelRuns f runs)

def relabelRuns (f : Check → Check) : List CheckRun → List CheckRun
  | [] => []
  | run :: rest => run.relabel f :: relabelRuns f rest

end

def Failure.relabel (f : Check → Check) (failure : Failure) : Failure :=
  { failure with check := f failure.check }

theorem prepend_relabel (f : Check → Check) (check : Check) (path : List PathSegment) (runs : List CheckRun) :
    CheckRun.prepend (f check) path (relabelRuns f runs) =
      relabelRuns f (CheckRun.prepend check path runs) := by
  induction path generalizing runs with
  | nil => simp [CheckRun.prepend, relabelRuns, CheckRun.relabel]
  | cons segment path ih =>
      have alone := ih []
      rw [relabelRuns] at alone
      cases runs with
      | nil => simp [CheckRun.prepend, relabelRuns, CheckRun.relabel, alone]
      | cons run others =>
          cases run with
          | test other => simp [CheckRun.prepend, relabelRuns, CheckRun.relabel, alone]
          | descend other inner =>
              by_cases same : segment = other <;>
                simp [CheckRun.prepend, relabelRuns, CheckRun.relabel, same, ih inner, alone]

mutual

theorem CheckRun.failures_relabel (f : Check → Check)
    (sameRule : ∀ check, (f check).rule = check.rule) (value : Value) :
    ∀ run : CheckRun, (run.relabel f).failures value = (run.failures value).map (Failure.relabel f)
  | .test check => by
      simp [CheckRun.relabel, CheckRun.failures, sameRule, Failure.relabel]
  | .descend segment runs => by
      simp only [CheckRun.relabel, CheckRun.failures, runFailures_relabel f sameRule _ runs,
        List.map_map, List.map_flatMap]
      rfl

theorem runFailures_relabel (f : Check → Check)
    (sameRule : ∀ check, (f check).rule = check.rule) (value : Value) :
    ∀ runs : List CheckRun,
      runFailures value (relabelRuns f runs) = (runFailures value runs).map (Failure.relabel f)
  | [] => by simp [relabelRuns, runFailures]
  | run :: rest => by
      rw [relabelRuns, runFailures, runFailures, CheckRun.failures_relabel f sameRule value run,
        runFailures_relabel f sameRule value rest, List.map_append]

end

namespace CheckRun

theorem ofChecks_under (segment : PathSegment) (check : Check) (rest : List Check) :
    ofChecks ((check :: rest).map (·.under segment)) =
      [.descend segment (relabelRuns (·.under segment) (ofChecks (check :: rest)))] := by
  induction rest generalizing check with
  | nil =>
      have alone := prepend_relabel (·.under segment) check check.path.segments []
      simp only [List.map_cons, List.map_nil, ofChecks, ← alone]
      rfl
  | cons next rest ih =>
      have nested : ofChecks (check :: next :: rest) =
          prepend check check.path.segments (ofChecks (next :: rest)) := rfl
      rw [List.map_cons, ofChecks, ih next, nested, ← prepend_relabel]
      exact if_pos rfl

theorem prepend_append (check : Check) (path : List PathSegment) (run : CheckRun)
    (runs others : List CheckRun) :
    prepend check path (run :: runs ++ others) = prepend check path (run :: runs) ++ others := by
  cases path with
  | nil => rfl
  | cons segment path =>
      cases run with
      | test other => rfl
      | descend other inner => by_cases same : segment = other <;> simp [prepend, same]

theorem prepend_descends (check : Check) (segment : PathSegment) (path : List PathSegment)
    (runs : List CheckRun) :
    ∃ inner others, prepend check (segment :: path) runs = .descend segment inner :: others := by
  rcases runs with _ | ⟨_ | ⟨other, inner⟩, others⟩
  · exact ⟨_, _, rfl⟩
  · exact ⟨_, _, rfl⟩
  · by_cases same : segment = other
    · subst other
      exact ⟨_, _, if_pos rfl⟩
    · exact ⟨_, _, if_neg same⟩

theorem prepend_eq_cons (check : Check) (path : List PathSegment) (runs : List CheckRun) :
    ∃ run others, prepend check path runs = run :: others := by
  cases path with
  | nil => exact ⟨_, _, rfl⟩
  | cons segment path =>
      obtain ⟨inner, others, run⟩ := prepend_descends check segment path runs
      exact ⟨_, _, run⟩

theorem prepend_apart (check other : Check) (runs : List CheckRun)
    (apart : check.start? = other.start? → check.start? = none) :
    prepend check check.path.segments (prepend other other.path.segments runs) =
      prepend check check.path.segments [] ++ prepend other other.path.segments runs := by
  cases path : check.path.segments with
  | nil => rfl
  | cons segment below =>
      cases beside : other.path.segments with
      | nil => rfl
      | cons next further =>
          obtain ⟨inner, others, run⟩ := prepend_descends other next further runs
          have differ : segment ≠ next := by
            intro same
            simp [Check.start?, path, beside, same] at apart
          rw [run]
          exact if_neg differ

theorem ofChecks_append (left right : List Check)
    (apart : ∀ check ∈ left, ∀ other ∈ right, check.start? = other.start? → check.start? = none) :
    ofChecks (left ++ right) = ofChecks left ++ ofChecks right := by
  induction left with
  | nil => rfl
  | cons check rest ih =>
      obtain ⟨first, others⟩ := List.forall_mem_cons.mp apart
      rw [List.cons_append, ofChecks, ih others, ofChecks]
      -- Only the last check on the left has those on the right next to it.
      cases rest with
      | nil =>
          cases right with
          | nil => simp [ofChecks]
          | cons other right =>
              exact prepend_apart check other _ (first other List.mem_cons_self)
      | cons next rest =>
          obtain ⟨run, runs, there⟩ := prepend_eq_cons next next.path.segments (ofChecks rest)
          rw [ofChecks, there]
          exact prepend_append check _ run runs _

end CheckRun

/-! What is reported. -/

/-- The failure as it is reported of the value at a place. -/
def Failure.violationFrom (place : String) (failure : Failure) : Violation :=
  ⟨failure.check.id, place ++ placeText failure.check.path.segments failure.indices,
    failure.check.rule, failure.found⟩

def reports (checks : List Check) (place : String) (value : Value) : List Violation :=
  (runFailures value (CheckRun.ofChecks checks)).map (Failure.violationFrom place)

theorem ValidationPlan.validateAll_eq_reports (plan : ValidationPlan) (value : Value) :
    plan.validateAll value = reports plan.checks "$" value := by
  rw [validateAll_eq_map]
  rfl

theorem ValidationPlan.validate_ok_iff_no_reports (plan : ValidationPlan) (value : Value) :
    plan.validate value = .ok () ↔ reports plan.checks "$" value = [] := by
  rw [validate_ok_iff_no_failures, reports, List.map_eq_nil_iff]
  rfl

theorem reports_nil (place : String) (value : Value) : reports [] place value = [] := by
  simp [reports, CheckRun.ofChecks, runFailures]

theorem reports_append (left right : List Check) (place : String) (value : Value)
    (apart : ∀ check ∈ left, ∀ other ∈ right, check.start? = other.start? → check.start? = none) :
    reports (left ++ right) place value = reports left place value ++ reports right place value := by
  rw [reports, CheckRun.ofChecks_append left right apart, runFailures_append, List.map_append]
  rfl

/-- Below a segment there is what the checks report by themselves. -/
theorem reports_under (segment : PathSegment) (checks : List Check) (place : String)
    (value : Value) :
    reports (checks.map (·.under segment)) place value =
      (segment.targets value).flatMap fun target =>
        reports checks (place ++ placeText [segment] target.1) target.2 := by
  cases checks with
  | nil => simp [reports_nil]
  | cons check rest =>
      rw [reports, CheckRun.ofChecks_under]
      simp only [runFailures, CheckRun.failures, List.append_nil, List.map_flatMap]
      apply List.flatMap_congr
      intro target isTarget
      rw [runFailures_relabel (·.under segment) fun _ => rfl]
      simp only [reports, List.map_map]
      apply List.map_congr_left
      intro failure _
      have text := placeText_cons segment failure.check.path.segments target.1 failure.indices
        (target_length segment value target isTarget)
      simp [Failure.violationFrom, Failure.beneath, Failure.relabel, Check.under, Check.below, text,
        String.append_assoc]

theorem reports_single (id : ConstraintId) (rule : CheckRule) (place : String) (value : Value) :
    reports [⟨id, .root, rule⟩] place value =
      (rule.finding? value).toList.map fun found => ⟨id, place, rule, found⟩ := by
  cases met : rule.finding? value <;>
    simp [reports, CheckRun.ofChecks, CheckRun.prepend, FieldPath.root, runFailures,
      CheckRun.failures, met, Failure.violationFrom, placeText]

end Asn1Constraints
