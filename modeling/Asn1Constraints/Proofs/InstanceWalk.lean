import Asn1Constraints.Proofs.PlannedChecks
import Mathlib

/-!
The walk of an instance along its type. It knows nothing of plans: it goes down
type and value together and names each place as it gets there. The plan of a
type, a flat list of checks with paths, reports the same violations in the same
order.
-/

namespace Asn1Constraints

/-- Whether the value has parts to which the parts of the shape apply. -/
def Shape.opens {Node : Type} : Shape Node → Value → Bool
  | .sequenceOf _ _, .sequenceOf _ => true
  | .sequence _, .sequence _ => true
  | .choice _, .choice _ _ => true
  | _, _ => false

mutual

/-- The violations met when a value is walked along a type, in order. -/
inductive Walks (module : TypeModule) : TypeNode → String → Value → List Violation → Prop where
  | reference {id target assignment place value violations} :
      module.find? target = some assignment →
      Walks module assignment.type place value violations →
      Walks module (.reference id target) place value violations
  | shaped {id shape place value below} :
      WalksParts module shape place value below →
      Walks module (.shaped id shape) place value
        (below ++ ownViolations id place shape.rule value)

inductive WalksParts (module : TypeModule) :
    Shape TypeNode → String → Value → List Violation → Prop where
  | elements {size element place items violations} :
      WalksElements module element place 0 items violations →
      WalksParts module (.sequenceOf size element) place (.sequenceOf items) violations
  | components {components place values violations} :
      WalksComponents module place values components violations →
      WalksParts module (.sequence components) place (.sequence values) violations
  | selected {alternatives alternative place selected content violations} :
      alternative ∈ alternatives → alternative.name = selected →
      Walks module alternative.type (place ++ "::" ++ selected) content violations →
      WalksParts module (.choice alternatives) place (.choice selected content) violations
  | undeclared {alternatives place selected content} :
      selected ∉ alternatives.map (·.name) →
      WalksParts module (.choice alternatives) place (.choice selected content) []
  | otherKind {shape place value} :
      shape.opens value = false → WalksParts module shape place value []

/-- Every element, one after the other, from an index on. -/
inductive WalksElements (module : TypeModule) :
    TypeNode → String → Nat → List Value → List Violation → Prop where
  | nil {element place index} : WalksElements module element place index [] []
  | cons {element place index item items first others} :
      Walks module element (place ++ s!"[{index}]") item first →
      WalksElements module element place (index + 1) items others →
      WalksElements module element place index (item :: items) (first ++ others)

/-- In the order of the declaration, the first value of each name. -/
inductive WalksComponents (module : TypeModule) :
    String → List (String × Value) → List (Component TypeNode) → List Violation → Prop where
  | nil {place values} : WalksComponents module place values [] []
  | present {place values component components value first others} :
      values.lookup component.name = some value →
      Walks module component.type (place ++ "." ++ component.name) value first →
      WalksComponents module place values components others →
      WalksComponents module place values (component :: components) (first ++ others)
  | absent {place values component components others} :
      values.lookup component.name = none →
      WalksComponents module place values components others →
      WalksComponents module place values (component :: components) others

end

namespace TypeModule

/-- The checks of the node report what is met on the walk. -/
def Reported (module : TypeModule) (node : TypeNode) : Prop :=
  ∀ place value violations, Walks module node place value violations ↔
    violations = reports (module.checksOf node) place value

section Walking

variable {module : TypeModule}

theorem branchReports_element (element : TypeNode) (place : String) (items : List Value) :
    module.branchReports place (.sequenceOf items) (.element, element) =
      items.zipIdx.flatMap fun entry =>
        reports (module.checksOf element) (place ++ s!"[{entry.2}]") entry.1 := by
  simp [branchReports, PathSegment.targets, List.flatMap_map, placeText]

theorem branchReports_component (name : String) (type : TypeNode) (place : String)
    (values : List (String × Value)) :
    module.branchReports place (.sequence values) (.component name, type) =
      (values.lookup name).toList.flatMap fun value =>
        reports (module.checksOf type) (place ++ "." ++ name) value := by
  simp [branchReports, PathSegment.targets, List.flatMap_map, placeText, String.append_assoc]

theorem branchReports_alternative (name : String) (type : TypeNode) (place selected : String)
    (content : Value) :
    module.branchReports place (.choice selected content) (.alternative name, type) =
      if selected = name then reports (module.checksOf type) (place ++ "::" ++ name) content
      else [] := by
  by_cases same : selected = name <;>
    simp [branchReports, PathSegment.targets, same, placeText, String.append_assoc]

/-! What a walk of the parts comes down to, by the kinds of shape and value. -/

theorem walksParts_elements_iff (size : SizeBounds) (element : TypeNode) (place : String)
    (items : List Value) (violations : List Violation) :
    WalksParts module (.sequenceOf size element) place (.sequenceOf items) violations ↔
      WalksElements module element place 0 items violations := by
  constructor
  · intro walk
    cases walk with
    | elements inside => exact inside
    | otherKind closed => cases closed
  · exact .elements

theorem walksParts_components_iff (components : List (Component TypeNode)) (place : String)
    (values : List (String × Value)) (violations : List Violation) :
    WalksParts module (.sequence components) place (.sequence values) violations ↔
      WalksComponents module place values components violations := by
  constructor
  · intro walk
    cases walk with
    | components inside => exact inside
    | otherKind closed => cases closed
  · exact .components

theorem walksParts_otherKind_iff (shape : Shape TypeNode) (place : String) (value : Value)
    (violations : List Violation) (closed : shape.opens value = false) :
    WalksParts module shape place value violations ↔ violations = [] := by
  constructor
  · intro walk
    cases walk with
    | otherKind _ => rfl
    | undeclared _ => rfl
    | _ => cases closed
  · rintro rfl
    exact .otherKind closed

theorem walksElements_iff (element : TypeNode) (reported : module.Reported element)
    (place : String) (index : Nat) (items : List Value) (violations : List Violation) :
    WalksElements module element place index items violations ↔
      violations = (items.zipIdx index).flatMap fun entry =>
        reports (module.checksOf element) (place ++ s!"[{entry.2}]") entry.1 := by
  induction items generalizing index violations with
  | nil =>
      constructor
      · intro walk
        cases walk
        rfl
      · rintro rfl
        exact .nil
  | cons item rest ih =>
      rw [List.zipIdx_cons, List.flatMap_cons]
      constructor
      · intro walk
        cases walk with
        | cons first others => rw [(reported _ _ _).mp first, (ih _ _).mp others]
      · rintro rfl
        exact .cons ((reported _ _ _).mpr rfl) ((ih _ _).mpr rfl)

theorem walksComponents_iff (place : String) (values : List (String × Value))
    (components : List (Component TypeNode)) (violations : List Violation)
    (reported : ∀ component ∈ components, module.Reported component.type) :
    WalksComponents module place values components violations ↔
      violations = components.flatMap fun component =>
        (values.lookup component.name).toList.flatMap fun value =>
          reports (module.checksOf component.type) (place ++ "." ++ component.name) value := by
  induction components generalizing violations with
  | nil =>
      constructor
      · intro walk
        cases walk
        rfl
      · rintro rfl
        exact .nil
  | cons component rest ih =>
      obtain ⟨inside, others⟩ := List.forall_mem_cons.mp reported
      rw [List.flatMap_cons]
      cases found : values.lookup component.name with
      | none =>
          constructor
          · intro walk
            cases walk with
            | present here => simp [found] at here
            | absent _ later => exact (ih _ others).mp later
          · intro same
            exact .absent found ((ih _ others).mpr same)
      | some value =>
          simp only [Option.toList_some, List.flatMap_cons, List.flatMap_nil, List.append_nil]
          constructor
          · intro walk
            cases walk with
            | present here first later =>
                obtain rfl : value = _ := Option.some.inj (found.symm.trans here)
                rw [(inside _ _ _).mp first, (ih _ others).mp later]
            | absent none => simp [found] at none
          · rintro rfl
            exact .present found ((inside _ _ _).mpr rfl) ((ih _ others).mpr rfl)

theorem flatMap_selected {α : Type} (alternatives : List (Alternative TypeNode))
    (distinct : (alternatives.map (·.name)).Nodup) (content : Alternative TypeNode → List α)
    (alternative : Alternative TypeNode) (member : alternative ∈ alternatives) :
    (alternatives.flatMap fun other => if alternative.name = other.name then content other else []) =
      content alternative := by
  induction alternatives with
  | nil => simp at member
  | cons first rest ih =>
      rw [List.map_cons, List.nodup_cons] at distinct
      rw [List.flatMap_cons]
      rcases List.mem_cons.mp member with same | later
      · subst first
        -- The other names differ from this one, so nothing comes after it.
        have others : ∀ other ∈ rest,
            (if alternative.name = other.name then content other else []) = [] := by
          intro other isOther
          apply if_neg
          intro same
          exact distinct.1 (List.mem_map.mpr ⟨other, isOther, same.symm⟩)
        rw [if_pos rfl, List.flatMap_eq_nil_iff.mpr others, List.append_nil]
      · have apart : alternative.name ≠ first.name := by
          intro same
          exact distinct.1 (List.mem_map.mpr ⟨alternative, later, same⟩)
        rw [if_neg apart, ih distinct.2 later, List.nil_append]

theorem walksAlternatives_iff (place selected : String) (content : Value)
    (alternatives : List (Alternative TypeNode)) (violations : List Violation)
    (distinct : (alternatives.map (·.name)).Nodup)
    (reported : ∀ alternative ∈ alternatives, module.Reported alternative.type) :
    WalksParts module (.choice alternatives) place (.choice selected content) violations ↔
      violations = alternatives.flatMap fun alternative =>
        if selected = alternative.name then
          reports (module.checksOf alternative.type) (place ++ "::" ++ alternative.name) content
        else [] := by
  by_cases declared : selected ∈ alternatives.map (·.name)
  · obtain ⟨alternative, member, rfl⟩ := List.mem_map.mp declared
    rw [flatMap_selected alternatives distinct _ alternative member]
    constructor
    · intro walk
      cases walk with
      | selected isOther same inside =>
          obtain rfl := List.inj_on_of_nodup_map distinct isOther member same
          exact (reported _ member _ _ _).mp inside
      | undeclared absent => exact absurd declared absent
      | otherKind closed => cases closed
    · rintro rfl
      exact .selected member rfl ((reported alternative member _ _ _).mpr rfl)
  -- A name that is not declared selects nothing, and nothing is entered.
  · have nothing : ∀ alternative ∈ alternatives, (if selected = alternative.name then
        reports (module.checksOf alternative.type) (place ++ "::" ++ alternative.name) content
        else []) = [] := by
      intro alternative member
      apply if_neg
      intro same
      exact declared (List.mem_map.mpr ⟨alternative, member, same.symm⟩)
    rw [List.flatMap_eq_nil_iff.mpr nothing]
    constructor
    · intro walk
      cases walk with
      | selected member same _ =>
          exact absurd (List.mem_map.mpr ⟨_, member, same⟩) declared
      | undeclared _ => rfl
      | otherKind closed => cases closed
    · rintro rfl
      exact .undeclared declared

theorem walksParts_iff (shape : Shape TypeNode) (sound : shape.Sound)
    (reported : ∀ part ∈ shape.parts, module.Reported part)
    (place : String) (value : Value) (violations : List Violation) :
    WalksParts module shape place value violations ↔
      violations = shape.branches.flatMap (module.branchReports place value) := by
  cases opens : shape.opens value with
  | false =>
      -- No segment of the shape leads into a value of another kind.
      have nothing : shape.branches.flatMap (module.branchReports place value) = [] := by
        cases shape <;> cases value <;>
          simp_all [Shape.opens, Shape.branches, branchReports, PathSegment.targets,
            List.flatMap_eq_nil_iff]
      rw [nothing, walksParts_otherKind_iff shape place value violations opens]
  | true =>
      cases shape with
      | sequenceOf size element =>
          cases value with
          | sequenceOf items =>
              rw [walksParts_elements_iff, Shape.branches, List.flatMap_singleton,
                branchReports_element]
              exact walksElements_iff element (reported element (by simp [Shape.parts])) place 0
                items violations
          | _ => cases opens
      | sequence components =>
          cases value with
          | sequence values =>
              rw [walksParts_components_iff]
              simp only [Shape.branches, List.flatMap_map, branchReports_component]
              exact walksComponents_iff place values components violations
                fun component member => reported _ (List.mem_map_of_mem member)
          | _ => cases opens
      | choice alternatives =>
          cases value with
          | choice selected content =>
              simp only [Shape.branches, List.flatMap_map, branchReports_alternative]
              exact walksAlternatives_iff place selected content alternatives violations
                sound.2 fun alternative member => reported _ (List.mem_map_of_mem member)
          | _ => cases opens
      | _ => cases opens

end Walking

namespace WellFormed

variable {module : TypeModule} (wellFormed : module.WellFormed)

include wellFormed

theorem reported (node : TypeNode) (sound : node.AllSound module) : module.Reported node := by
  apply wellFormed.induction ?_ ?_ node sound
  · intro id target assignment found ih place value violations
    rw [wellFormed.checksOf_reference id target assignment found, ← ih]
    constructor
    · intro walk
      cases walk with
      | reference other inside =>
          obtain rfl := Option.some.inj (found.symm.trans other)
          exact inside
    · exact .reference found
  · intro id shape sound ih place value violations
    have shapeSound := (sound _ (TypeNode.self_mem_nodes _)).2
    have inside := walksParts_iff shape shapeSound ih place value
    rw [wellFormed.reports_shaped id shape sound]
    constructor
    · intro walk
      cases walk with
      | shaped below => rw [(inside _).mp below]
    · rintro rfl
      exact .shaped ((inside _).mpr rfl)

end WellFormed

/-- What the plan of a type reports of a value is what is met on the walk of
the value along the type, and the walk comes to nothing else. -/
theorem compile_reports_walk (module : TypeModule) (accepted : module.validate = .ok ())
    (assignment : TypeAssignment) (declared : assignment ∈ module.types) (value : Value) :
    ∃ plan, module.compile assignment.name = .ok plan ∧ ∀ violations,
      Walks module assignment.type "$" value violations ↔ violations = plan.validateAll value := by
  have wellFormed := wellFormed_of_validate accepted
  obtain ⟨resolved, _, compiled⟩ := wellFormed.compile_ok accepted assignment declared
  refine ⟨_, compiled, fun violations => ?_⟩
  rw [ValidationPlan.validateAll_eq_reports]
  exact wellFormed.reported assignment.type (wellFormed.allSound assignment declared) "$" value
    violations

def rowList : TypeAssignment :=
  ⟨"Rows", .shaped 1 (.sequenceOf ⟨1, 4⟩ (.reference 0 "Row"))⟩

/-- One to four rows, each with a digit as its key. -/
def rows : TypeModule :=
  ⟨modelVersion, "Tables",
    [rowList, ⟨"Row", .shaped 2 (.sequence [⟨"key", false, .shaped 3 (.integer ⟨0, 9⟩)⟩])⟩]⟩

theorem rows_report_walk :
    rows.validate = .ok () ∧ rowList ∈ rows.types ∧
      ∃ plan, rows.compile rowList.name = .ok plan ∧ ∀ violations,
        Walks rows rowList.type "$"
            (.sequenceOf [.sequence [("key", .integer 12)], .null]) violations ↔
          violations = plan.validateAll (.sequenceOf [.sequence [("key", .integer 12)], .null]) :=
  ⟨rfl, List.mem_cons_self, compile_reports_walk rows rfl rowList List.mem_cons_self _⟩

end TypeModule

end Asn1Constraints
