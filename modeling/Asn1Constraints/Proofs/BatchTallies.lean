import Asn1Constraints.Proofs.Names
import Asn1Constraints.Validation.Batch
import Mathlib

/-!
The books of a batch. Each value adds one to the instances and to one side of the
balance, and a value that is refused adds one to the count of a single id, that of
its first violation. What is kept for an id is therefore made of the violations
with that id, in the order of their values: the first gives the place and the
rule, all of them the count.
-/

namespace Asn1Constraints

/-! One more violation. -/

/-- What is kept for an id after one more violation. -/
def Violation.countedOnto (violation : Violation) : Option ConstraintStats → ConstraintStats
  | none => ⟨violation.path, violation.rule.text, 1⟩
  | some stats => { stats with violations := stats.violations + 1 }

section CountViolation

variable (violation : Violation) (table : List (ConstraintId × ConstraintStats))

theorem mem_countViolation_ids (id : ConstraintId) :
    id ∈ (countViolation violation table).map (·.1) ↔
      id = violation.id ∨ id ∈ table.map (·.1) := by
  fun_induction countViolation violation table with
  | case1 => simp
  | case2 stats rest => simp
  | case3 other stats rest apart before => simp
  | case4 other stats rest apart after ih =>
      rw [List.map_cons, List.mem_cons, ih, List.map_cons, List.mem_cons]
      tauto

theorem countViolation_ascending (ascending : (table.map (·.1)).Pairwise (· < ·)) :
    ((countViolation violation table).map (·.1)).Pairwise (· < ·) := by
  fun_induction countViolation violation table with
  | case1 => exact List.pairwise_singleton _ _
  | case2 stats rest => exact ascending
  | case3 other stats rest apart before => exact ascending.cons_cons_of_trans before
  -- Entered further down, the id is still above the one that it went past.
  | case4 other stats rest apart after ih =>
      have parts := List.pairwise_cons.mp ascending
      apply List.pairwise_cons.mpr
      refine ⟨?_, ih parts.2⟩
      intro id member
      rcases (mem_countViolation_ids violation rest id).mp member with rfl | later
      · exact UInt32.lt_of_le_of_ne (UInt32.not_lt.mp after) (Ne.symm apart)
      · exact parts.1 id later

/-- Only what is kept for the id of the violation changes. -/
theorem lookup_countViolation (ascending : (table.map (·.1)).Pairwise (· < ·))
    (id : ConstraintId) :
    (countViolation violation table).lookup id =
      if id = violation.id then some (violation.countedOnto (table.lookup id))
      else table.lookup id := by
  fun_induction countViolation violation table with
  | case1 => simp [lookup_cons_if, Violation.countedOnto]
  | case2 stats rest =>
      by_cases own : id = violation.id <;> simp [lookup_cons_if, own, Violation.countedOnto]
  | case3 other stats rest apart before =>
      -- An id below the least one of the table is not in it.
      have absent : ((other, stats) :: rest).lookup violation.id = none := by
        apply (lookup_eq_none_iff_absent _ _).mpr
        intro member
        rcases List.mem_cons.mp member with here | later
        · exact apart here
        · exact UInt32.lt_asymm before ((List.pairwise_cons.mp ascending).1 _ later)
      rw [lookup_cons_if]
      by_cases own : id = violation.id
      · rw [if_pos own, if_pos own, own, absent]
        rfl
      · rw [if_neg own, if_neg own]
  | case4 other stats rest apart after ih =>
      rw [lookup_cons_if, lookup_cons_if, ih (List.pairwise_cons.mp ascending).2]
      by_cases own : id = other
      · simp [own, Ne.symm apart]
      · simp [own]

theorem countViolation_sum :
    ((countViolation violation table).map (·.2.violations)).sum =
      (table.map (·.2.violations)).sum + 1 := by
  fun_induction countViolation violation table with
  | case1 => rfl
  | case2 stats rest =>
      simp only [List.map_cons, List.sum_cons]
      omega
  | case3 other stats rest apart before =>
      simp only [List.map_cons, List.sum_cons]
      omega
  | case4 other stats rest apart after ih =>
      simp only [List.map_cons, List.sum_cons, ih]
      omega

end CountViolation

/-- What is kept of violations that share an id. -/
def statsOf? : List Violation → Option ConstraintStats
  | [] => none
  | first :: rest => some ⟨first.path, first.rule.text, rest.length + 1⟩

theorem statsOf?_snoc (earlier : List Violation) (violation : Violation) :
    statsOf? (earlier ++ [violation]) = some (violation.countedOnto (statsOf? earlier)) := by
  cases earlier with
  | nil => rfl
  | cons first rest => simp [statsOf?, Violation.countedOnto]

namespace ValidationPlan

variable (plan : ValidationPlan)

/-! The values of a batch. -/

def firstViolation? (value : Value) : Option Violation :=
  match plan.validate value with
  | .ok () => none
  | .error violation => some violation

/-- The first violation of a value if it has this id. -/
def firstViolationOf? (id : ConstraintId) (value : Value) : Option Violation :=
  (plan.firstViolation? value).filter (·.id = id)

theorem firstViolation?_eq_some_iff (value : Value) (violation : Violation) :
    plan.firstViolation? value = some violation ↔ plan.validate value = .error violation := by
  unfold firstViolation?
  cases plan.validate value <;> simp

theorem firstViolationOf?_eq_some_iff (id : ConstraintId) (value : Value) (violation : Violation) :
    plan.firstViolationOf? id value = some violation ↔
      plan.validate value = .error violation ∧ violation.id = id := by
  rw [firstViolationOf?, Option.filter_eq_some_iff, firstViolation?_eq_some_iff, decide_eq_true_iff]

/-- The metrics say what became of the values so far. -/
structure Tallies (values : List Value) (metrics : BatchMetrics) : Prop where
  instances : metrics.instances = values.length
  passed : metrics.passed = values.countP fun value => (plan.validate value).isOk
  balance : metrics.passed + metrics.failed = metrics.instances
  ascending : (metrics.violationsById.map (·.1)).Pairwise (· < ·)
  kept : ∀ id, metrics.violationsById.lookup id =
    statsOf? (values.filterMap (plan.firstViolationOf? id))
  total : (metrics.violationsById.map (·.2.violations)).sum = metrics.failed

theorem tallies_none : plan.Tallies [] (.ofPlan plan) where
  instances := rfl
  passed := rfl
  balance := rfl
  ascending := List.Pairwise.nil
  kept _ := rfl
  total := rfl

variable {plan}

/-- Recording the outcome of one more value keeps the books right. -/
theorem Tallies.record {values : List Value} {metrics : BatchMetrics}
    (tallies : plan.Tallies values metrics) (value : Value) :
    plan.Tallies (values ++ [value]) (metrics.record (plan.validate value)) := by
  have counted := tallies.instances
  have balance := tallies.balance
  cases outcome : plan.validate value with
  | ok =>
      have silent : ∀ id, plan.firstViolationOf? id value = none := by
        intro id
        simp [firstViolationOf?, firstViolation?, outcome]
      constructor
      · simp [BatchMetrics.record, counted]
      · simp [BatchMetrics.record, tallies.passed, outcome, Except.isOk, Except.toBool]
      · simp only [BatchMetrics.record]
        omega
      · exact tallies.ascending
      · intro id
        simp [BatchMetrics.record, tallies.kept, silent]
      · exact tallies.total
  | error violation =>
      constructor
      · simp [BatchMetrics.record, counted]
      · simp [BatchMetrics.record, tallies.passed, outcome, Except.isOk, Except.toBool]
      · simp only [BatchMetrics.record]
        omega
      · exact countViolation_ascending _ _ tallies.ascending
      · intro id
        rw [BatchMetrics.record, lookup_countViolation _ _ tallies.ascending, tallies.kept,
          List.filterMap_append]
        by_cases own : id = violation.id
        -- The violation is the last one so far with its id, and no other id has it.
        · have found : plan.firstViolationOf? id value = some violation :=
            (plan.firstViolationOf?_eq_some_iff id value violation).mpr ⟨outcome, own.symm⟩
          rw [if_pos own]
          simp [found, statsOf?_snoc]
        · have other : plan.firstViolationOf? id value = none := by
            simp [firstViolationOf?, firstViolation?, outcome, Ne.symm own]
          rw [if_neg own]
          simp [other]
      · rw [BatchMetrics.record, countViolation_sum, tallies.total]

/-- From any books that are right, those of a longer batch are. -/
theorem Tallies.collectFrom {values : List Value} {metrics : BatchMetrics}
    (tallies : plan.Tallies values metrics) (index : ℕ) (rest : List Value) :
    plan.Tallies (values ++ rest) (plan.collectFrom index metrics rest).1 := by
  -- By induction on the values to come: what has become of those before is in the books.
  induction rest generalizing values metrics index with
  | nil => simpa [ValidationPlan.collectFrom] using tallies
  | cons value rest ih =>
      have later := ih (tallies.record value) (index + 1)
      rw [List.append_assoc, List.singleton_append] at later
      rw [ValidationPlan.collectFrom]
      cases outcome : plan.validate value <;> simpa [outcome] using later

variable (plan) in
theorem collectFrom_violations (index : ℕ) (metrics : BatchMetrics) (values : List Value) :
    (plan.collectFrom index metrics values).2 = (values.zipIdx index).filterMap fun entry =>
      (plan.firstViolation? entry.1).map fun violation => (entry.2, violation) := by
  induction values generalizing metrics index with
  | nil => rfl
  | cons value rest ih =>
      have later := ih (index + 1) (metrics.record (plan.validate value))
      rw [collectFrom, List.zipIdx_cons, List.filterMap_cons, firstViolation?]
      cases outcome : plan.validate value <;> simpa [outcome] using later

/-- What is kept for an id: how many values have it in their first violation, with
the place and the rule of the earliest of these violations. -/
structure Kept (plan : ValidationPlan) (values : List Value) (id : ConstraintId)
    (stats : ConstraintStats) : Prop where
  counted : stats.violations =
    values.countP fun value => (plan.firstViolationOf? id value).isSome
  earliest : ∃ before value after violation, values = before ++ value :: after ∧
    plan.validate value = .error violation ∧ violation.id = id ∧
    stats.path = violation.path ∧ stats.rule = violation.rule.text ∧
    ∀ earlier ∈ before, plan.firstViolationOf? id earlier = none

theorem kept_of_statsOf? {values : List Value} {id : ConstraintId} {stats : ConstraintStats}
    (found : statsOf? (values.filterMap (plan.firstViolationOf? id)) = some stats) :
    plan.Kept values id stats := by
  cases listed : values.filterMap (plan.firstViolationOf? id) with
  | nil =>
      rw [listed] at found
      cases found
  | cons first rest =>
      rw [listed] at found
      obtain rfl := Option.some.inj found
      constructor
      · rw [← List.length_filterMap_eq_countP, listed]
        rfl
      · obtain ⟨before, value, after, split, silent, own, _⟩ := List.filterMap_eq_cons_iff.mp listed
        have refused := (plan.firstViolationOf?_eq_some_iff id value first).mp own
        exact ⟨before, value, after, first, split, refused.1, refused.2, rfl, rfl, silent⟩

theorem statsOf?_isSome_iff (values : List Value) (id : ConstraintId) :
    (statsOf? (values.filterMap (plan.firstViolationOf? id))).isSome ↔
      ∃ value ∈ values, ∃ violation, plan.validate value = .error violation ∧
        violation.id = id := by
  simp only [← firstViolationOf?_eq_some_iff]
  cases listed : values.filterMap (plan.firstViolationOf? id) with
  | nil =>
      have silent := List.filterMap_eq_nil_iff.mp listed
      simp +contextual [statsOf?, silent]
  | cons first rest =>
      have member : first ∈ values.filterMap (plan.firstViolationOf? id) :=
        listed ▸ List.mem_cons_self
      obtain ⟨value, inside, own⟩ := List.mem_filterMap.mp member
      exact ⟨fun _ => ⟨value, inside, first, own⟩, fun _ => rfl⟩

/-- The metrics of a batch and its list of violations are exact. -/
theorem collectMetrics_exact (plan : ValidationPlan) (values : List Value) :
    ∃ metrics violations, plan.collectMetrics values = (metrics, violations) ∧
      metrics.instances = values.length ∧
      metrics.passed = (values.countP fun value => (plan.validate value).isOk) ∧
      metrics.passed + metrics.failed = metrics.instances ∧
      (metrics.violationsById.map (·.1)).Pairwise (· < ·) ∧
      (∀ id, id ∈ metrics.violationsById.map (·.1) ↔
        ∃ value ∈ values, ∃ violation, plan.validate value = .error violation ∧
          violation.id = id) ∧
      (∀ entry ∈ metrics.violationsById, plan.Kept values entry.1 entry.2) ∧
      (metrics.violationsById.map (·.2.violations)).sum = metrics.failed ∧
      (violations.Pairwise fun entry other => entry.1 < other.1) ∧
      ∀ index violation, (index, violation) ∈ violations ↔
        ∃ value, values[index]? = some value ∧ plan.validate value = .error violation := by
  have tallies := plan.tallies_none.collectFrom 0 values
  have listed := plan.collectFrom_violations 0 (.ofPlan plan) values
  rw [List.nil_append] at tallies
  refine ⟨_, _, rfl, tallies.instances, tallies.passed, tallies.balance, tallies.ascending,
    ?_, ?_, tallies.total, ?_, ?_⟩
  · intro id
    rw [← statsOf?_isSome_iff, ← tallies.kept, lookup_isSome_iff]
  · intro entry member
    apply kept_of_statsOf?
    rw [← tallies.kept]
    exact lookup_of_mem (tallies.ascending.imp UInt32.ne_of_lt) member
  · rw [listed]
    apply (zipIdx_ascending values 0).filterMap
    intro entry other less violation own another also
    obtain ⟨_, _, rfl⟩ := Option.map_eq_some_iff.mp own
    obtain ⟨_, _, rfl⟩ := Option.map_eq_some_iff.mp also
    exact less
  · intro index violation
    rw [listed]
    simp [List.mem_zipIdx_iff_getElem?, firstViolation?_eq_some_iff]

end ValidationPlan

end Asn1Constraints
