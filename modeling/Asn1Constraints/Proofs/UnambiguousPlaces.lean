import Asn1Constraints.Proofs.PlainChecks
import Asn1Constraints.Proofs.PlanDocuments
import Mathlib

/-!
Places told apart by their texts. In the text of a place names and indices are
runs of characters that what comes after cannot carry on, so the text of a place
on a plain path has been made in one way only. The paths in a plan are distinct,
and so no two violations of a value are reported of one place.
-/

namespace Asn1Constraints

open Json (StopsBefore stopsBefore_cons takeWhile_run toDigits_isDigit digitsValue
  digitsValue_toDigits)

/-! Runs. -/

/-- Where neither run is carried on, equal texts start with equal runs. -/
theorem run_split {belongs : Char → Bool} {run other rest after : List Char}
    (inside : ∀ c ∈ run, belongs c = true) (alsoInside : ∀ c ∈ other, belongs c = true)
    (stops : StopsBefore belongs rest) (alsoStops : StopsBefore belongs after)
    (same : run ++ rest = other ++ after) : run = other ∧ rest = after := by
  obtain ⟨taken, left⟩ := takeWhile_run run inside rest stops
  obtain ⟨alsoTaken, alsoLeft⟩ := takeWhile_run other alsoInside after alsoStops
  rw [same] at taken left
  exact ⟨taken.symm.trans alsoTaken, left.symm.trans alsoLeft⟩

theorem PlainName.split {name other : String} (plain : PlainName name) (alsoPlain : PlainName other)
    {rest after : List Char} (stops : StopsBefore (!FieldPath.endsName ·) rest)
    (alsoStops : StopsBefore (!FieldPath.endsName ·) after)
    (same : name.toList ++ rest = other.toList ++ after) : name = other ∧ rest = after := by
  have goesOn : ∀ {name}, PlainName name → ∀ c ∈ name.toList, (!FieldPath.endsName c) = true :=
    fun plain c member => by rw [plain.2 c member]; rfl
  obtain ⟨chars, left⟩ := run_split (goesOn plain) (goesOn alsoPlain) stops alsoStops same
  exact ⟨String.toList_inj.mp chars, left⟩

theorem index_split {index other : ℕ} {rest after : List Char}
    (same : Nat.toDigits 10 index ++ ']' :: rest = Nat.toDigits 10 other ++ ']' :: after) :
    index = other ∧ rest = after := by
  obtain ⟨digits, left⟩ := run_split (toDigits_isDigit index) (toDigits_isDigit other)
    (stopsBefore_cons rfl) (stopsBefore_cons rfl) same
  have value := congrArg digitsValue digits
  rw [digitsValue_toDigits, digitsValue_toDigits] at value
  exact ⟨value, (List.cons.inj left).2⟩

/-! Texts of places. -/

/-- The character that every place reached by the segment starts with. -/
def PathSegment.opener : PathSegment → Char
  | .component _ => '.'
  | .alternative _ => ':'
  | .element => '['

theorem PathSegment.opener_endsName (segment : PathSegment) :
    FieldPath.endsName segment.opener = true := by
  cases segment <;> rfl

theorem index_toList (index : ℕ) :
    (placeText [.element] [index]).toList = '[' :: Nat.toDigits 10 index ++ [']'] := by
  change ("[" ++ toString index ++ "]" ++ "").toList = _
  simp

theorem placeText_head (segment : PathSegment) (path : List PathSegment) (indices : List ℕ) :
    (placeText (segment :: path) indices).toList.head? = some segment.opener := by
  cases segment with
  | component name => simp [placeText, PathSegment.opener]
  | alternative name => simp [placeText, PathSegment.opener]
  | element =>
      cases indices with
      | nil => simp [placeText, PathSegment.opener]
      | cons index indices =>
          have split := placeText_cons .element path [index] indices (by simp)
          rw [List.singleton_append] at split
          simp [split, index_toList, PathSegment.opener]

/-- A place is where names end. -/
theorem placeText_stops (path : List PathSegment) (indices : List ℕ) :
    StopsBefore (!FieldPath.endsName ·) (placeText path indices).toList := by
  cases path with
  | nil => exact fun c first => nomatch first
  | cons segment path =>
      intro c first
      obtain rfl : segment.opener = c :=
        Option.some.inj ((placeText_head segment path indices).symm.trans first)
      simp [segment.opener_endsName]

/-- A text that goes on from one segment does not go on from another, nor from
another element of the same collection. -/
theorem segment_split {segment other : PathSegment} (plain : segment.Plain)
    (alsoPlain : other.Plain) {steps others : List ℕ}
    (counted : steps.length = [segment].count .element)
    (alsoCounted : others.length = [other].count .element) {rest after : List Char}
    (stops : StopsBefore (!FieldPath.endsName ·) rest)
    (alsoStops : StopsBefore (!FieldPath.endsName ·) after)
    (same : (placeText [segment] steps).toList ++ rest =
      (placeText [other] others).toList ++ after) :
    segment = other ∧ steps = others ∧ rest = after := by
  -- The first character tells the kind of the segment.
  have opened : segment.opener = other.opener := by
    have first := congrArg List.head? same
    rw [List.head?_append, List.head?_append, placeText_head, placeText_head] at first
    exact Option.some.inj first
  cases segment with
  | component name =>
      cases other with
      | component twin =>
          obtain rfl : steps = [] := by simpa using counted
          obtain rfl : others = [] := by simpa using alsoCounted
          obtain ⟨rfl, left⟩ := PlainName.split plain alsoPlain stops alsoStops
            (by simpa [placeText] using same)
          exact ⟨rfl, rfl, left⟩
      | _ => cases opened
  | alternative name =>
      cases other with
      | alternative twin =>
          obtain rfl : steps = [] := by simpa using counted
          obtain rfl : others = [] := by simpa using alsoCounted
          obtain ⟨rfl, left⟩ := PlainName.split plain alsoPlain stops alsoStops
            (by simpa [placeText] using same)
          exact ⟨rfl, rfl, left⟩
      | _ => cases opened
  | element =>
      cases other with
      | element =>
          obtain ⟨index, rfl⟩ := List.length_eq_one_iff.mp (by simpa using counted)
          obtain ⟨twin, rfl⟩ := List.length_eq_one_iff.mp (by simpa using alsoCounted)
          rw [index_toList, index_toList] at same
          obtain ⟨rfl, left⟩ := index_split (by simpa using same)
          exact ⟨rfl, rfl, left⟩
      | _ => cases opened

/-- Two places on plain paths that are called the same are reached by the same
path and the same indices. -/
theorem places_told_apart {path other : List PathSegment} (plain : ∀ segment ∈ path, segment.Plain)
    (alsoPlain : ∀ segment ∈ other, segment.Plain) {value content : Value} {place twin : Place}
    (reached : place ∈ places path value) (alsoReached : twin ∈ places other content)
    (same : place.text = twin.text) : path = other ∧ place.indices = twin.indices := by
  -- Along both paths at once; the inner texts stop names, so the outer ones split.
  induction path generalizing other value content place twin with
  | nil =>
      obtain rfl : place = ⟨[], "", value⟩ := by simpa [places] using reached
      cases other with
      | nil =>
          obtain rfl : twin = ⟨[], "", content⟩ := by simpa [places] using alsoReached
          exact ⟨rfl, rfl⟩
      | cons segment other =>
          have first := placeText_head segment other twin.indices
          rw [place_text _ content twin alsoReached, ← same] at first
          cases first
  | cons segment path ih =>
      cases other with
      | nil =>
          obtain rfl : twin = ⟨[], "", content⟩ := by simpa [places] using alsoReached
          have first := placeText_head segment path place.indices
          rw [place_text _ value place reached, same] at first
          cases first
      | cons next other =>
          rw [places_cons] at reached alsoReached
          obtain ⟨target, isTarget, inside⟩ := List.mem_flatMap.mp reached
          obtain ⟨below, isBelow, rfl⟩ := List.mem_map.mp inside
          obtain ⟨aim, isAim, alsoInside⟩ := List.mem_flatMap.mp alsoReached
          obtain ⟨beyond, isBeyond, rfl⟩ := List.mem_map.mp alsoInside
          obtain ⟨own, later⟩ := List.forall_mem_cons.mp plain
          obtain ⟨alsoOwn, alsoLater⟩ := List.forall_mem_cons.mp alsoPlain
          have stops : StopsBefore (!FieldPath.endsName ·) below.text.toList :=
            place_text path target.2 below isBelow ▸ placeText_stops path below.indices
          have alsoStops : StopsBefore (!FieldPath.endsName ·) beyond.text.toList :=
            place_text other aim.2 beyond isBeyond ▸ placeText_stops other beyond.indices
          obtain ⟨rfl, steps, rest⟩ := segment_split own alsoOwn
            (target_length segment value target isTarget) (target_length next content aim isAim)
            stops alsoStops (by simpa [Place.after] using congrArg String.toList same)
          obtain ⟨rfl, indices⟩ := ih later alsoLater isBelow isBeyond (String.toList_inj.mp rest)
          exact ⟨rfl, by rw [Place.after, Place.after, steps, indices]⟩

/-! What is reported of a place. -/

theorem Check.mem_violations {check : Check} {value : Value} {entry : List ℕ × Violation}
    (reported : entry ∈ check.violations value) :
    ∃ place ∈ places check.path.segments value,
      entry.1 = place.indices ∧ entry.2.path = "$" ++ place.text := by
  obtain ⟨place, reached, met⟩ := List.mem_filterMap.mp reported
  obtain ⟨found, _, rfl⟩ := Option.map_eq_some_iff.mp met
  exact ⟨place, reached, rfl, rfl⟩

theorem Check.violations_told_apart {check other : Check} (plain : check.path.Plain)
    (alsoPlain : other.path.Plain) {value content : Value} {entry twin : List ℕ × Violation}
    (reported : entry ∈ check.violations value) (alsoReported : twin ∈ other.violations content)
    (same : entry.2.path = twin.2.path) : check.path = other.path ∧ entry.1 = twin.1 := by
  obtain ⟨place, reached, indices, text⟩ := mem_violations reported
  obtain ⟨aim, alsoReached, alsoIndices, alsoText⟩ := mem_violations alsoReported
  rw [text, alsoText] at same
  obtain ⟨segments, steps⟩ := places_told_apart plain alsoPlain reached alsoReached
    (by simpa using same)
  exact ⟨congrArg FieldPath.mk segments, indices.trans (steps.trans alsoIndices.symm)⟩

namespace ValidationPlan

variable {plan : ValidationPlan}

theorem mem_validateAll {value : Value} {violation : Violation}
    (reported : violation ∈ plan.validateAll value) :
    ∃ check ∈ plan.checks, ∃ indices, (indices, violation) ∈ check.violations value := by
  have all := (plan.validateAll_interleaved value).perm.subset reported
  simpa using all

section

variable (plain : ∀ check ∈ plan.checks, check.path.Plain)
  (distinct : (checkPaths plan.checks).Nodup)

include plain distinct

/-- A place is that of one check only, at one tuple of indices. -/
theorem source_unique {check other : Check} (planned : check ∈ plan.checks)
    (alsoPlanned : other ∈ plan.checks) {value content : Value} {entry twin : List ℕ × Violation}
    (reported : entry ∈ check.violations value) (alsoReported : twin ∈ other.violations content)
    (same : entry.2.path = twin.2.path) : check = other ∧ entry.1 = twin.1 := by
  obtain ⟨paths, indices⟩ := Check.violations_told_apart (plain check planned)
    (plain other alsoPlanned) reported alsoReported same
  exact ⟨List.inj_on_of_nodup_map distinct planned alsoPlanned paths, indices⟩

theorem reported_paths_nodup (value : Value) :
    ((plan.validateAll value).map (·.path)).Nodup := by
  have all := (plan.validateAll_interleaved value).perm.map Violation.path
  rw [← List.flatMap_def, List.map_flatMap] at all
  simp only [List.map_map] at all
  refine all.nodup_iff.mpr (List.nodup_flatMap.mpr ⟨fun check planned => ?_, ?_⟩)
  · -- The indices of one check ascend, so its texts differ.
    refine List.pairwise_map.mpr ((check.violations_ascending value).imp_of_mem ?_)
    intro entry twin reported alsoReported less same
    obtain ⟨_, indices⟩ := source_unique plain distinct planned planned reported alsoReported same
    exact List.lt_irrefl _ (indices ▸ less)
  · refine (List.pairwise_map.mp distinct).imp_of_mem ?_
    intro check other planned alsoPlanned apart text inOne inOther
    obtain ⟨entry, reported, rfl⟩ := List.mem_map.mp inOne
    obtain ⟨twin, alsoReported, same⟩ := List.mem_map.mp inOther
    obtain ⟨rfl, _⟩ := source_unique plain distinct planned alsoPlanned reported alsoReported
      same.symm
    exact apart rfl

end

end ValidationPlan

namespace TypeModule

/-- In a module of plain names the texts of places are unambiguous: no two
violations of a value have the same, and a text that is reported of any value
comes from one check, at one tuple of indices. -/
theorem reported_places_unambiguous (module : TypeModule) (accepted : module.validate = .ok ())
    (plain : module.PlainNames) (assignment : TypeAssignment)
    (declared : assignment ∈ module.types) :
    ∃ plan, module.compile assignment.name = .ok plan ∧ ∀ value,
      ((plan.validateAll value).map (·.path)).Nodup ∧
      ∀ violation ∈ plan.validateAll value, ∃ check ∈ plan.checks, ∃ indices,
        (indices, violation) ∈ check.violations value ∧
        ∀ other ∈ plan.checks, ∀ content, ∀ entry ∈ other.violations content,
          entry.2.path = violation.path → other = check ∧ entry.1 = indices := by
  have wellFormed := wellFormed_of_validate accepted
  obtain ⟨_, _, made⟩ := wellFormed.compile_ok accepted assignment declared
  have plainPaths := wellFormed.checks_plain plain assignment declared
  have distinct := wellFormed.checkPaths_nodup assignment declared
  refine ⟨_, made, fun value => ⟨?_, fun violation reported => ?_⟩⟩
  · exact ValidationPlan.reported_paths_nodup plainPaths distinct value
  · obtain ⟨check, planned, indices, own⟩ := ValidationPlan.mem_validateAll reported
    refine ⟨check, planned, indices, own, fun other alsoPlanned content entry reported same => ?_⟩
    exact ValidationPlan.source_unique plainPaths distinct alsoPlanned planned reported own same

/-- Rows of cells which have a count or none. -/
def grids : TypeModule :=
  ⟨modelVersion, "Grids",
    [⟨"Grid", .shaped 1 (.sequenceOf ⟨1, 20⟩ (.shaped 2 (.sequenceOf ⟨1, 20⟩ (.shaped 4 (.choice
      [⟨"count", .shaped 3 (.integer ⟨0, 9⟩)⟩, ⟨"none", .shaped 0 .null⟩])))))⟩]⟩

theorem grids_plainNames : grids.PlainNames := by
  intro id shape member
  simp only [nodes, grids, TypeNode.nodes, TypeNode.alternativeNodes, List.flatMap_cons,
    List.flatMap_nil, List.append_nil, List.cons_append, List.nil_append, List.mem_cons,
    List.not_mem_nil, or_false, TypeNode.shaped.injEq] at member
  rcases member with ⟨-, rfl⟩ | ⟨-, rfl⟩ | ⟨-, rfl⟩ | ⟨-, rfl⟩ | ⟨-, rfl⟩ <;>
    simp [Shape.branches, PathSegment.Plain, PlainName, FieldPath.endsName]

theorem grids_report_once :
    grids.validate = .ok () ∧ grids.PlainNames ∧ ∃ grid ∈ grids.types, ∃ plan,
      grids.compile grid.name = .ok plan ∧ ∃ value,
        (plan.validateAll value).map (·.path) = ["$[0]", "$[1][1]::count", "$[1][2]::count"] ∧
        ((plan.validateAll value).map (·.path)).Nodup ∧
        ∀ violation ∈ plan.validateAll value, ∃ check ∈ plan.checks, ∃ indices,
          (indices, violation) ∈ check.violations value ∧
          ∀ other ∈ plan.checks, ∀ content, ∀ entry ∈ other.violations content,
            entry.2.path = violation.path → other = check ∧ entry.1 = indices := by
  obtain ⟨plan, made, unambiguous⟩ :=
    reported_places_unambiguous grids rfl grids_plainNames _ List.mem_cons_self
  refine ⟨rfl, grids_plainNames, _, List.mem_cons_self, plan, made,
    .sequenceOf [.sequenceOf [], .sequenceOf [.choice "none" .null, .choice "count" (.integer 10),
      .choice "count" (.integer 11)]], ?_, unambiguous _⟩
  obtain rfl := Except.ok.inj made
  decide +kernel

end TypeModule

end Asn1Constraints
