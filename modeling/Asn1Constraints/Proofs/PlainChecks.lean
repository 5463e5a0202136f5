import Asn1Constraints.Proofs.Failures
import Asn1Constraints.Proofs.Names
import Mathlib

/-!
Checks one at a time. A single check is tested at every place its path leads
to; the walk of a whole plan carries runs of checks together and so reports the
same failures in another order, in which those of any one check keep theirs.
Nothing is asked of the plan: its checks may stand in any order and repeat.
-/

namespace Asn1Constraints

/-! Lists merged with their own orders kept. -/

inductive Merged {α : Type} : List α → List α → List α → Prop where
  | nil : Merged [] [] []
  | left {item left right all} : Merged left right all → Merged (item :: left) right (item :: all)
  | right {item left right all} : Merged left right all → Merged left (item :: right) (item :: all)

/-- All items of all parts, the items of each part in their order. -/
def Interleaved {α : Type} : List (List α) → List α → Prop
  | [], all => all = []
  | part :: parts, all => ∃ others, Interleaved parts others ∧ Merged part others all

section Merging

variable {α β : Type}

theorem merged_nil_left (items : List α) : Merged [] items items := by
  induction items with
  | nil => exact .nil
  | cons item rest ih => exact .right ih

theorem merged_nil_right (items : List α) : Merged items [] items := by
  induction items with
  | nil => exact .nil
  | cons item rest ih => exact .left ih

theorem Merged.append {left right all left' right' all' : List α} (first : Merged left right all)
    (second : Merged left' right' all') : Merged (left ++ left') (right ++ right') (all ++ all') := by
  induction first with
  | nil => exact second
  | left _ ih => exact .left ih
  | right _ ih => exact .right ih

theorem Merged.map {left right all : List α} (merged : Merged left right all) (f : α → β) :
    Merged (left.map f) (right.map f) (all.map f) := by
  induction merged with
  | nil => exact .nil
  | left _ ih => exact .left ih
  | right _ ih => exact .right ih

theorem Merged.flatMap {left right all : α → List β} (items : List α)
    (each : ∀ item ∈ items, Merged (left item) (right item) (all item)) :
    Merged (items.flatMap left) (items.flatMap right) (items.flatMap all) := by
  induction items with
  | nil => exact .nil
  | cons item rest ih =>
      obtain ⟨first, others⟩ := List.forall_mem_cons.mp each
      simpa using first.append (ih others)

theorem Merged.perm {left right all : List α} (merged : Merged left right all) :
    all.Perm (left ++ right) := by
  induction merged with
  | nil => exact .nil
  | left _ ih => exact ih.cons _
  | right _ ih => exact (ih.cons _).trans List.perm_middle.symm

theorem Interleaved.map {parts : List (List α)} {all : List α} (interleaved : Interleaved parts all)
    (f : α → β) : Interleaved (parts.map (·.map f)) (all.map f) := by
  induction parts generalizing all with
  | nil => simpa [Interleaved] using interleaved
  | cons part parts ih =>
      obtain ⟨others, rest, merged⟩ := interleaved
      exact ⟨others.map f, ih rest, merged.map f⟩

theorem Interleaved.perm {parts : List (List α)} {all : List α}
    (interleaved : Interleaved parts all) : all.Perm parts.flatten := by
  induction parts generalizing all with
  | nil => exact interleaved ▸ List.Perm.nil
  | cons part parts ih =>
      obtain ⟨others, rest, merged⟩ := interleaved
      exact merged.perm.trans ((ih rest).append_left part)

end Merging

/-- Where a path leads: the element indices on the way, the text of the way with
these indices in it, and the value. -/
structure Place where
  indices : List Nat
  text : String
  value : Value

/-- The same place seen from one segment further up. -/
def Place.after (text : String) (steps : List Nat) (place : Place) : Place :=
  ⟨steps ++ place.indices, text ++ place.text, place.value⟩

/-- The places a path leads to from a value. -/
def places : List PathSegment → Value → List Place
  | [], value => [⟨[], "", value⟩]
  | .component name :: path, .sequence components =>
    (components.lookup name).toList.flatMap fun part =>
      (places path part).map (·.after ("." ++ name) [])
  | .alternative name :: path, .choice selected content =>
    if selected = name then (places path content).map (·.after ("::" ++ name) []) else []
  | .element :: path, .sequenceOf items =>
    items.zipIdx.flatMap fun entry =>
      (places path entry.1).map (·.after s!"[{entry.2}]" [entry.2])
  | _, _ => []

/-- A rule tested wherever its path leads, with the indices of each violation. -/
def Check.violations (check : Check) (value : Value) : List (List Nat × Violation) :=
  (places check.path.segments value).filterMap fun place =>
    (check.rule.finding? place.value).map fun found =>
      (place.indices, ⟨check.id, "$" ++ place.text, check.rule, found⟩)

theorem places_cons (segment : PathSegment) (path : List PathSegment) (value : Value) :
    places (segment :: path) value = (segment.targets value).flatMap fun target =>
      (places path target.2).map (·.after (placeText [segment] target.1) target.1) := by
  cases segment with
  | component name =>
      cases value <;> simp [places, PathSegment.targets, List.flatMap_map, placeText]
  | alternative name =>
      cases value with
      | choice selected content =>
          by_cases same : selected = name <;> simp [places, PathSegment.targets, placeText, same]
      | _ => simp [places, PathSegment.targets]
  | element =>
      cases value <;> simp [places, PathSegment.targets, List.flatMap_map, placeText]

namespace Check

def failuresAlong (check : Check) (path : List PathSegment) (value : Value) : List Failure :=
  (places path value).filterMap fun place =>
    (check.rule.finding? place.value).map fun found => ⟨check, place.indices, found⟩

theorem failuresAlong_cons (check : Check) (segment : PathSegment) (path : List PathSegment)
    (value : Value) :
    check.failuresAlong (segment :: path) value = (segment.targets value).flatMap fun target =>
      (check.failuresAlong path target.2).map (·.beneath target.1) := by
  simp [failuresAlong, places_cons, List.filterMap_flatMap, List.filterMap_map,
    List.map_filterMap, Function.comp_def, Failure.beneath, Place.after]

end Check

/-! The walk. -/

theorem descend_merged (check : Check) (segment : PathSegment) (path : List PathSegment)
    (runs grown : List CheckRun) (value : Value)
    (merged : ∀ part, Merged (check.failuresAlong path part) (runFailures part runs)
      (runFailures part grown)) :
    Merged (check.failuresAlong (segment :: path) value)
      ((CheckRun.descend segment runs).failures value)
      ((CheckRun.descend segment grown).failures value) := by
  rw [Check.failuresAlong_cons, CheckRun.failures, CheckRun.failures]
  exact Merged.flatMap _ fun target _ => (merged target.2).map _

theorem prepend_merged (check : Check) (path : List PathSegment) (runs : List CheckRun)
    (value : Value) :
    Merged (check.failuresAlong path value) (runFailures value runs)
      (runFailures value (CheckRun.prepend check path runs)) := by
  induction path generalizing runs value with
  | nil =>
      have own : check.failuresAlong [] value = (CheckRun.test check).failures value := by
        cases met : check.rule.finding? value <;>
          simp [Check.failuresAlong, places, CheckRun.failures, met]
      rw [own, CheckRun.prepend, runFailures]
      simpa using (merged_nil_right _).append (merged_nil_left _)
  | cons segment path ih =>
      -- On its own the check makes a run of one, before whatever follows.
      have opened : Merged (check.failuresAlong (segment :: path) value) []
          ((CheckRun.descend segment (CheckRun.prepend check path [])).failures value) := by
        have grown := descend_merged check segment path [] _ value (ih [])
        have closed : (CheckRun.descend segment []).failures value = [] := by
          simp [CheckRun.failures, runFailures, List.flatMap_eq_nil_iff]
        rwa [closed] at grown
      have before : ∀ others, Merged (check.failuresAlong (segment :: path) value)
          (runFailures value others)
          (runFailures value (.descend segment (CheckRun.prepend check path []) :: others)) := by
        intro others
        rw [runFailures]
        simpa using opened.append (merged_nil_left _)
      cases runs with
      | nil => exact before []
      | cons run others =>
          cases run with
          | test other => exact before _
          | descend other inner =>
              rw [CheckRun.prepend]
              -- A run down the same segment takes the check in, element by element.
              by_cases same : segment = other
              · subst other
                rw [if_pos rfl, runFailures, runFailures]
                simpa using (descend_merged check segment path inner _ value (ih inner)).append
                  (merged_nil_left _)
              · rw [if_neg same]
                exact before _

theorem ofChecks_interleaved (checks : List Check) (value : Value) :
    Interleaved (checks.map fun check => check.failuresAlong check.path.segments value)
      (runFailures value (CheckRun.ofChecks checks)) := by
  induction checks with
  | nil => simp [CheckRun.ofChecks, runFailures, Interleaved]
  | cons check rest ih => exact ⟨_, ih, prepend_merged check check.path.segments _ value⟩

/-! Places. -/

/-- What a place is called is what its indices make of the path. -/
theorem place_text (path : List PathSegment) (value : Value) :
    ∀ place ∈ places path value, placeText path place.indices = place.text := by
  induction path generalizing value with
  | nil => simp [places, placeText]
  | cons segment path ih =>
      rw [places_cons]
      intro place member
      obtain ⟨target, isTarget, inside⟩ := List.mem_flatMap.mp member
      obtain ⟨rest, below, rfl⟩ := List.mem_map.mp inside
      have counted := target_length segment value target isTarget
      rw [Place.after, placeText_cons segment path target.1 rest.indices counted,
        ih target.2 rest below]

theorem targets_ascending (segment : PathSegment) (value : Value) :
    (segment.targets value).Pairwise fun first second =>
      ∃ i j, first.1 = [i] ∧ second.1 = [j] ∧ i < j := by
  cases segment with
  | component name =>
      cases value with
      | sequence components =>
          cases found : components.lookup name <;> simp [PathSegment.targets, found]
      | _ => simp [PathSegment.targets]
  | alternative name =>
      cases value with
      | choice selected content =>
          by_cases same : selected = name <;> simp [PathSegment.targets, same]
      | _ => simp [PathSegment.targets]
  -- Only elements are targets more than once, numbered in their order.
  | element =>
      cases value with
      | sequenceOf items =>
          exact List.pairwise_map.mpr ((zipIdx_ascending items 0).imp fun {first second} less =>
            ⟨first.2, second.2, rfl, rfl, less⟩)
      | _ => simp [PathSegment.targets]

/-- Places come in the lexicographic order of their indices. -/
theorem places_ascending (path : List PathSegment) (value : Value) :
    (places path value).Pairwise fun first second => first.indices < second.indices := by
  induction path generalizing value with
  | nil => simp [places]
  | cons segment path ih =>
      rw [places_cons, List.pairwise_flatMap]
      constructor
      · intro target _
        exact List.pairwise_map.mpr ((ih target.2).imp (List.append_left_lt ·))
      · apply (targets_ascending segment value).imp
        rintro first second ⟨i, j, atFirst, atSecond, less⟩ place inFirst other inSecond
        obtain ⟨below, _, rfl⟩ := List.mem_map.mp inFirst
        obtain ⟨beyond, _, rfl⟩ := List.mem_map.mp inSecond
        rw [Place.after, Place.after, atFirst, atSecond]
        exact List.Lex.rel less

namespace Check

theorem violations_eq_failures (check : Check) (value : Value) :
    (check.violations value).map (·.2) =
      (check.failuresAlong check.path.segments value).map Failure.violation := by
  rw [violations, failuresAlong, List.map_filterMap, List.map_filterMap]
  apply List.filterMap_congr
  intro place isPlace
  have text := place_text check.path.segments value place isPlace
  cases check.rule.finding? place.value <;> simp [Failure.violation, violationAt, text]

theorem violations_ascending (check : Check) (value : Value) :
    (check.violations value).Pairwise fun first second => first.1 < second.1 := by
  apply List.Pairwise.filterMap _ _ (places_ascending check.path.segments value)
  intro place other less violation isViolation another isAnother
  obtain ⟨found, _, rfl⟩ := Option.map_eq_some_iff.mp isViolation
  obtain ⟨alsoFound, _, rfl⟩ := Option.map_eq_some_iff.mp isAnother
  exact less

theorem failuresAlong_eq_nil_iff (check : Check) (path : List PathSegment) (value : Value) :
    check.failuresAlong path value = [] ↔
      ∀ place ∈ places path value, check.rule.finding? place.value = none := by
  simp [failuresAlong, List.filterMap_eq_nil_iff]

end Check

namespace ValidationPlan

theorem validateAll_interleaved (plan : ValidationPlan) (value : Value) :
    Interleaved (plan.checks.map fun check => (check.violations value).map (·.2))
      (plan.validateAll value) := by
  have merged := (ofChecks_interleaved plan.checks value).map Failure.violation
  rw [List.map_map] at merged
  rw [validateAll_eq_map]
  simp only [Check.violations_eq_failures]
  exact merged

theorem validate_ok_iff_checks_met (plan : ValidationPlan) (value : Value) :
    plan.validate value = .ok () ↔ ∀ check ∈ plan.checks,
      ∀ place ∈ places check.path.segments value, check.rule.finding? place.value = none := by
  have same := (ofChecks_interleaved plan.checks value).perm
  rw [validate_ok_iff_no_failures, failures, runs, ← List.perm_nil, same.congr_left,
    List.perm_nil, List.flatten_eq_nil_iff, List.forall_mem_map]
  simp only [Check.failuresAlong_eq_nil_iff]

/-- A plan reports what its checks report one by one: each at every place its
path leads to, in the order of the indices of these places. It accepts a value
if every check is met wherever it applies. -/
theorem validateAll_reports_each_check (plan : ValidationPlan) (value : Value) :
    (plan.validateAll value).Perm
        (plan.checks.flatMap fun check => (check.violations value).map (·.2)) ∧
      Interleaved (plan.checks.map fun check => (check.violations value).map (·.2))
        (plan.validateAll value) ∧
      (∀ check ∈ plan.checks,
        (check.violations value).Pairwise fun first second => first.1 < second.1) ∧
      (plan.validate value = .ok () ↔ ∀ check ∈ plan.checks,
        ∀ place ∈ places check.path.segments value,
          check.rule.finding? place.value = none) := by
  have interleaved := plan.validateAll_interleaved value
  refine ⟨?_, interleaved, ?_, plan.validate_ok_iff_checks_met value⟩
  · rw [List.flatMap_def]
    exact interleaved.perm
  · exact fun check _ => check.violations_ascending value

end ValidationPlan

end Asn1Constraints
