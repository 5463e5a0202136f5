import Asn1Constraints.Proofs.NormalForms
import Mathlib

/-!
Normalizing only reorders. What is looked up by the name of a declared component
is found in the normal form as well, itself in normal form: the order is stable,
so of several components of one name the first stays the first. Therefore checks
fail at the same places as before and the document is the same. Values that
differ in nothing but the order of declared components have one normal form.
-/

namespace Asn1Constraints

namespace Value

/-- The values of the components of one name, as they come. -/
def named (name : String) (components : List (String × Value)) : List Value :=
  (components.filter fun component => component.1 = name).map (·.2)

/-- The names of components in declaration order, each as often as it occurs,
and those that are not declared at the end. -/
def orderedNames (components : List (Component TypeNode)) (values : List (String × Value)) :
    List String :=
  (components.flatMap fun component => (values.map (·.1)).filter (· = component.name)) ++
    (undeclared components values).map (·.1)

end Value

/-- The second value is the first with its components put in order: in every
sequence of a sequence type the names are the same, the declared ones in the
order of the declaration and the others behind them as they were. The values of
one name keep their order and are put in order themselves. -/
inductive Reordered (module : TypeModule) : TypeNode → Value → Value → Prop where
  | reference {id target assignment value other} :
      module.find? target = some assignment → Reordered module assignment.type value other →
      Reordered module (.reference id target) value other
  | sequenceOf {id size element items others} :
      others.length = items.length →
      (∀ (index : Nat) (item other : Value), items[index]? = some item →
        others[index]? = some other → Reordered module element item other) →
      Reordered module (.shaped id (.sequenceOf size element)) (.sequenceOf items)
        (.sequenceOf others)
  | sequence {id components values others} :
      (others.map (·.1)).Perm (values.map (·.1)) →
      others.map (·.1) = Value.orderedNames components values →
      Value.undeclared components others = Value.undeclared components values →
      (∀ component ∈ components, ∀ (index : Nat) (value other : Value),
        (Value.named component.name values)[index]? = some value →
        (Value.named component.name others)[index]? = some other →
        Reordered module component.type value other) →
      Reordered module (.shaped id (.sequence components)) (.sequence values) (.sequence others)
  | choice {id alternatives alternative content other} :
      alternative ∈ alternatives → Reordered module alternative.type content other →
      Reordered module (.shaped id (.choice alternatives)) (.choice alternative.name content)
        (.choice alternative.name other)
  /-- A value that has no part that falls under a part of the shape. -/
  | bare {id shape value} :
      (∀ part content, ¬ shape.Assigns value part content) →
      Reordered module (.shaped id shape) value value

/-- The values differ only in the order of components, and only in sequences of
a sequence type whose names are all declared and all different. -/
inductive Permuted (module : TypeModule) : TypeNode → Value → Value → Prop where
  | same {node value} : Permuted module node value value
  | trans {node value next other} :
      Permuted module node value next → Permuted module node next other →
      Permuted module node value other
  | reference {id target assignment value other} :
      module.find? target = some assignment → Permuted module assignment.type value other →
      Permuted module (.reference id target) value other
  | element {id size element before item other after} :
      Permuted module element item other →
      Permuted module (.shaped id (.sequenceOf size element))
        (.sequenceOf (before ++ item :: after)) (.sequenceOf (before ++ other :: after))
  | component {id components component before value other after} :
      component ∈ components → Permuted module component.type value other →
      Permuted module (.shaped id (.sequence components))
        (.sequence (before ++ (component.name, value) :: after))
        (.sequence (before ++ (component.name, other) :: after))
  | content {id alternatives alternative value other} :
      alternative ∈ alternatives → Permuted module alternative.type value other →
      Permuted module (.shaped id (.choice alternatives)) (.choice alternative.name value)
        (.choice alternative.name other)
  | order {id components values others} :
      values.Perm others → (values.map (·.1)).Nodup →
      (∀ name ∈ values.map (·.1), name ∈ components.map (·.name)) →
      Permuted module (.shaped id (.sequence components)) (.sequence values) (.sequence others)

/-- A violation apart from what was found. -/
def Violation.outline (violation : Violation) : ConstraintId × String × CheckRule :=
  (violation.id, violation.path, violation.rule)

namespace Value

/-! What is looked up. -/

theorem lookup_eq_head (name : String) (components : List (String × Value)) :
    components.lookup name = (named name components).head? := by
  induction components with
  | nil => rfl
  | cons component rest ih =>
      rw [lookup_cons_if]
      by_cases same : component.1 = name
      · simp [named, same]
      · rw [if_neg (Ne.symm same), ih]
        simp [named, same]

section

variable {part : TypeNode → Value → Value} {components : List (Component TypeNode)}

theorem named_arranged (distinct : (components.map (·.name)).Nodup)
    {component : Component TypeNode} (declared : component ∈ components)
    (values : List (String × Value)) :
    named component.name (arranged part components values) =
      (named component.name values).map (part component.type) := by
  rw [named, filter_arranged distinct declared, arrangedNamed, named, List.map_map, List.map_map]
  rfl

theorem lookup_arranged (distinct : (components.map (·.name)).Nodup)
    {component : Component TypeNode} (declared : component ∈ components)
    (values : List (String × Value)) :
    (arranged part components values).lookup component.name =
      (values.lookup component.name).map (part component.type) := by
  rw [lookup_eq_head, named_arranged distinct declared, List.head?_map, lookup_eq_head]

/-- A segment of a part leads to what it led to, each value arranged as that part. -/
theorem targets_arranged {shape : Shape TypeNode} (sound : shape.Sound)
    {branch : PathSegment × TypeNode} (isBranch : branch ∈ shape.branches) (value : Value) :
    branch.1.targets (arrangedShape part shape value) =
      (branch.1.targets value).map fun target => (target.1, part branch.2 target.2) := by
  cases shape with
  | sequenceOf size element =>
      obtain rfl := List.mem_singleton.mp isBranch
      cases value with
      | sequenceOf items =>
          simp [arrangedShape, PathSegment.targets, List.zipIdx_map, Function.comp_def]
      | _ => rfl
  | sequence components =>
      obtain ⟨component, declared, rfl⟩ := List.mem_map.mp isBranch
      cases value with
      | sequence values =>
          simp only [arrangedShape, PathSegment.targets, lookup_arranged sound declared]
          cases values.lookup component.name <;> rfl
      | _ => rfl
  | choice alternatives =>
      obtain ⟨alternative, declared, rfl⟩ := List.mem_map.mp isBranch
      cases value with
      | choice name content =>
          rw [arrangedShape]
          by_cases selected : name = alternative.name
          · have found : Alternative.byName? alternatives name = some alternative :=
              selected ▸ Alternative.byName?_of_mem sound.2 declared
            rw [found]
            simp [PathSegment.targets, selected]
          · split <;> simp [PathSegment.targets, selected]
      | _ => rfl
  | _ => cases isBranch

/-! Writing. -/

theorem writeElements_arranged {writer : PartWriter} {element : TypeNode} (items : List Value)
    (each : ∀ place value, writer place element (part element value) = writer place element value)
    (place : String) (index : Nat) :
    writeElements writer place element index (items.map (part element)) =
      writeElements writer place element index items := by
  induction items generalizing index with
  | nil => rfl
  | cons item rest ih => rw [List.map_cons, writeElements, writeElements, each, ih]

theorem writeComponents_arranged {writer : PartWriter} {values others : List (String × Value)}
    (components : List (Component TypeNode))
    (found : ∀ component ∈ components, others.lookup component.name =
      (values.lookup component.name).map (part component.type))
    (each : ∀ component ∈ components, ∀ place value,
      writer place component.type (part component.type value) = writer place component.type value)
    (place : String) :
    writeComponents writer place others components =
      writeComponents writer place values components := by
  induction components with
  | nil => rfl
  | cons component rest ih =>
      obtain ⟨here, later⟩ := List.forall_mem_cons.mp found
      obtain ⟨own, following⟩ := List.forall_mem_cons.mp each
      rw [writeComponents, writeComponents, ih later following, here]
      cases values.lookup component.name with
      | none => rfl
      | some value =>
          simp only [Option.map_some]
          rw [own]

/-- Whatever is written for a value, or refused, is the same once it is arranged. -/
theorem writeShape_arranged {writer : PartWriter} {shape : Shape TypeNode} (sound : shape.Sound)
    (each : ∀ node ∈ shape.parts, ∀ place value,
      writer place node (part node value) = writer place node value)
    (place : String) (value : Value) :
    writeShape writer place shape (arrangedShape part shape value) =
      writeShape writer place shape value := by
  cases shape with
  | sequenceOf size element =>
      cases value with
      | sequenceOf items =>
          rw [arrangedShape, writeShape, writeShape,
            writeElements_arranged items (each element (by simp [Shape.parts]))]
      | _ => rfl
  | sequence components =>
      cases value with
      | sequence values =>
          rw [arrangedShape, writeShape, writeShape, writeComponents_arranged components
            (fun component declared => lookup_arranged sound declared values)
            fun component declared => each component.type (List.mem_map_of_mem declared)]
      | _ => rfl
  | choice alternatives =>
      cases value with
      | choice name content =>
          rw [arrangedShape]
          cases selected : Alternative.byName? alternatives name with
          | none => rfl
          | some alternative =>
              have declared := (Alternative.declared_of_byName? selected).1
              simp only [writeShape, writeAlternative, selected,
                each alternative.type (List.mem_map_of_mem declared)]
      | _ => rfl
  | _ => cases value <;> rfl

end

/-! Permuted components. -/

/-- Of different names each has one value at most, so their order does not matter. -/
theorem filter_name_perm {values others : List (String × Value)} (perm : values.Perm others)
    (unique : (values.map (·.1)).Nodup) (name : String) :
    values.filter (fun entry => entry.1 = name) = others.filter fun entry => entry.1 = name := by
  induction perm with
  | nil => rfl
  | cons entry _ ih =>
      have rest := ih (List.nodup_cons.mp unique).2
      rw [List.filter_cons, List.filter_cons, rest]
  | swap first second rest =>
      have apart : second.1 ≠ first.1 := fun same => by simp [same] at unique
      by_cases one : first.1 = name
      · have other : second.1 ≠ name := fun two => apart (two.trans one.symm)
        simp [one, other]
      · simp [List.filter_cons, one]
  | trans perm _ ih next => rw [ih unique, next ((perm.map _).nodup_iff.mp unique)]

theorem undeclared_of_known {components : List (Component TypeNode)}
    {values : List (String × Value)}
    (known : ∀ name ∈ values.map (·.1), name ∈ components.map (·.name)) :
    undeclared components values = [] := by
  rw [undeclared, List.filter_eq_nil_iff]
  intro entry member
  simpa [Component.byName?] using known entry.1 (List.mem_map_of_mem member)

theorem arranged_perm {part : TypeNode → Value → Value} {components : List (Component TypeNode)}
    {values others : List (String × Value)} (perm : values.Perm others)
    (unique : (values.map (·.1)).Nodup)
    (known : ∀ name ∈ values.map (·.1), name ∈ components.map (·.name)) :
    arranged part components values = arranged part components others := by
  have each : ∀ component ∈ components,
      arrangedNamed part component values = arrangedNamed part component others := by
    intro component _
    rw [arrangedNamed, filter_name_perm perm unique, ← arrangedNamed]
  have alsoKnown : ∀ name ∈ others.map (·.1), name ∈ components.map (·.name) :=
    fun name member => known name ((perm.map _).mem_iff.mpr member)
  rw [arranged, arranged, List.flatMap_congr each, undeclared_of_known known,
    undeclared_of_known alsoKnown]

/-- Components that are arranged to the same can take each other's place. -/
theorem arranged_middle {part : TypeNode → Value → Value}
    {components : List (Component TypeNode)} (distinct : (components.map (·.name)).Nodup)
    {component : Component TypeNode} (declared : component ∈ components) {value other : Value}
    (same : part component.type value = part component.type other)
    (before after : List (String × Value)) :
    arranged part components (before ++ (component.name, value) :: after) =
      arranged part components (before ++ (component.name, other) :: after) := by
  -- Only the component of that name sees a difference, and it arranges both alike.
  have each : ∀ listed ∈ components,
      arrangedNamed part listed (before ++ (component.name, value) :: after) =
        arrangedNamed part listed (before ++ (component.name, other) :: after) := by
    intro listed among
    by_cases named : component.name = listed.name
    · obtain rfl := List.inj_on_of_nodup_map distinct declared among named
      simp [arrangedNamed, same]
    · simp [arrangedNamed, named]
  have known : (Component.byName? components component.name).isNone = false := by
    simpa [Component.byName?] using ⟨component, declared, rfl⟩
  have rest : undeclared components (before ++ (component.name, value) :: after) =
      undeclared components (before ++ (component.name, other) :: after) := by
    simp [undeclared, known]
  rw [arranged, arranged, List.flatMap_congr each, rest]

/-! Names. -/

theorem arranged_orderedNames (part : TypeNode → Value → Value)
    (components : List (Component TypeNode)) (values : List (String × Value)) :
    (arranged part components values).map (·.1) = orderedNames components values := by
  have each : ∀ component ∈ components, (arrangedNamed part component values).map (·.1) =
      (values.map (·.1)).filter (· = component.name) := by
    intro component _
    rw [arrangedNamed, List.map_map, List.filter_map]
    rfl
  rw [arranged, List.map_append, List.map_flatMap, List.flatMap_congr each, orderedNames]

end Value

namespace TypeModule

theorem ownViolations_outlines {id : ConstraintId} {place : String} {rule : CheckRule}
    {value other : Value} (same : rule.finding? value = none ↔ rule.finding? other = none) :
    (ownViolations id place rule value).map Violation.outline =
      (ownViolations id place rule other).map Violation.outline := by
  by_cases none : id = 0
  · simp [ownViolations, none]
  · cases first : rule.finding? value <;> cases second : rule.finding? other <;>
      simp [first, second] at same <;>
      simp [ownViolations, none, first, second, Violation.outline]

namespace WellFormed

variable {module : TypeModule} (wellFormed : module.WellFormed)

include wellFormed

/-- Checks fail on the normal form where they fail on the value. -/
theorem normal_outlines (node : TypeNode) (sound : node.AllSound module) :
    ∀ place value,
      (reports (module.checksOf node) place (Value.normal module node value)).map
          Violation.outline =
        (reports (module.checksOf node) place value).map Violation.outline := by
  apply wellFormed.induction ?_ ?_ node sound
  · intro id target assignment found ih place value
    rw [wellFormed.checksOf_reference id target assignment found,
      normal_reference found, ih]
  · intro id shape sound ih place value
    have shapeSound := (sound _ (TypeNode.self_mem_nodes _)).2
    rw [wellFormed.normal_shaped sound, wellFormed.reports_shaped id shape sound,
      wellFormed.reports_shaped id shape sound, List.map_append, List.map_append,
      List.map_flatMap, List.map_flatMap]
    congr 1
    · refine List.flatMap_congr fun branch isBranch => ?_
      rw [branchReports, Value.targets_arranged shapeSound isBranch, List.flatMap_map,
        branchReports, List.map_flatMap, List.map_flatMap]
      exact List.flatMap_congr fun target _ =>
        ih branch.2 (shape.branch_mem_parts branch isBranch) _ target.2
    · apply ownViolations_outlines
      rw [shape.rule_met_iff shapeSound, shape.rule_met_iff shapeSound,
        Value.arrangedShape_fits_iff shapeSound]

/-- The normal form has the document of the value, and where there is none it is
refused for the same reason. -/
theorem normal_written (node : TypeNode) (sound : node.AllSound module) :
    ∀ place value, Value.writePart module place node (Value.normal module node value) =
      Value.writePart module place node value := by
  apply wellFormed.induction ?_ ?_ node sound
  · intro id target assignment found ih place value
    rw [normal_reference found, Value.writePart_reference found, ih,
      Value.writePart_reference found]
  · intro id shape sound ih place value
    rw [wellFormed.normal_shaped sound, Value.writePart_shaped, Value.writePart_shaped,
      Value.writeShape_arranged (sound _ (TypeNode.self_mem_nodes _)).2 ih]

theorem normal_reordered (node : TypeNode) (sound : node.AllSound module) :
    ∀ value, Reordered module node value (Value.normal module node value) := by
  apply wellFormed.induction ?_ ?_ node sound
  · intro id target assignment found ih value
    rw [normal_reference found]
    exact .reference found (ih value)
  · intro id shape sound ih value
    have shapeSound := (sound _ (TypeNode.self_mem_nodes _)).2
    rw [wellFormed.normal_shaped sound]
    cases shape with
    | sequenceOf size element =>
        cases value with
        | sequenceOf items =>
            refine .sequenceOf (by simp) fun index item other here there => ?_
            obtain rfl : Value.normal module element item = other := by
              simpa [here] using there
            exact ih element (by simp [Shape.parts]) item
        | _ => exact .bare (by simp [Shape.Assigns])
    | sequence components =>
        cases value with
        | sequence values =>
            refine .sequence (Value.arranged_names _ shapeSound values)
              (Value.arranged_orderedNames _ components values)
              (Value.undeclared_arranged values) ?_
            intro component declared index value other here there
            rw [Value.named_arranged shapeSound declared] at there
            obtain rfl : Value.normal module component.type value = other := by
              simpa [here] using there
            exact ih component.type (List.mem_map_of_mem declared) value
        | _ => exact .bare (by simp [Shape.Assigns])
    | choice alternatives =>
        cases value with
        | choice name content =>
            rw [Value.arrangedShape]
            cases selected : Alternative.byName? alternatives name with
            | none =>
                refine .bare ?_
                rintro part inside ⟨alternative, declared, rfl, _⟩
                rw [Alternative.byName?_of_mem shapeSound.2 declared] at selected
                cases selected
            | some alternative =>
                obtain ⟨declared, rfl⟩ := Alternative.declared_of_byName? selected
                exact .choice declared (ih alternative.type (List.mem_map_of_mem declared) content)
        | _ => exact .bare (by simp [Shape.Assigns])
    | _ =>
        -- A shape without parts leaves every value as it is.
        cases value <;>
        · refine .bare fun part inside assigned => ?_
          cases Shape.assigned_mem_parts assigned

/-- The order of declared components that are all different is lost. -/
theorem normal_permuted {node : TypeNode} {value other : Value}
    (permuted : Permuted module node value other) (sound : node.AllSound module) :
    Value.normal module node value = Value.normal module node other := by
  induction permuted with
  | same => rfl
  | trans _ _ first second => rw [first sound, second sound]
  | reference found _ ih =>
      have inside := wellFormed.allSound _ (declared_of_find? found).1
      rw [normal_reference found, normal_reference found, ih inside]
  | element _ ih =>
      have inside := ih (AllSound.part sound (by simp [Shape.parts]))
      rw [wellFormed.normal_shaped sound, wellFormed.normal_shaped sound]
      simp [Value.arrangedShape, inside]
  | component declared _ ih =>
      have shapeSound := (sound _ (TypeNode.self_mem_nodes _)).2
      have inside := ih (AllSound.part sound (List.mem_map_of_mem declared))
      rw [wellFormed.normal_shaped sound, wellFormed.normal_shaped sound, Value.arrangedShape,
        Value.arrangedShape, Value.arranged_middle shapeSound declared inside]
  | content declared _ ih =>
      have shapeSound := (sound _ (TypeNode.self_mem_nodes _)).2
      have inside := ih (AllSound.part sound (List.mem_map_of_mem declared))
      rw [wellFormed.normal_shaped sound, wellFormed.normal_shaped sound]
      simp only [Value.arrangedShape, Alternative.byName?_of_mem shapeSound.2 declared, inside]
  | order perm unique known =>
      rw [wellFormed.normal_shaped sound, wellFormed.normal_shaped sound, Value.arrangedShape,
        Value.arrangedShape, Value.arranged_perm perm unique known]

end WellFormed

/-- Normalizing changes nothing but the order of components, and that nowhere
but in sequences of a sequence type. The normal form fails the same checks at
the same places and has the same document, and it does not tell values apart
that differ in the order of declared components only. -/
theorem normalized_reorders_only (module : TypeModule) (accepted : module.validate = .ok ())
    (assignment : TypeAssignment) (declared : assignment ∈ module.types) :
    ∃ plan, module.compile assignment.name = .ok plan ∧
      (∀ value : Value, ∃ normal, value.normalized module assignment.type = .ok normal ∧
        normal.normalized module assignment.type = .ok normal ∧
        (plan.validateAll normal).map Violation.outline =
          (plan.validateAll value).map Violation.outline ∧
        normal.toJson module assignment.type = value.toJson module assignment.type ∧
        Reordered module assignment.type value normal) ∧
      ∀ value other : Value, Permuted module assignment.type value other →
        value.normalized module assignment.type = other.normalized module assignment.type := by
  have wellFormed := wellFormed_of_validate accepted
  have sound := wellFormed.allSound assignment declared
  have form := wellFormed.normalized_eq_normal assignment.type sound
  obtain ⟨resolved, _, compiled⟩ := wellFormed.compile_ok accepted assignment declared
  refine ⟨_, compiled, fun value => ⟨_, form value, ?_, ?_, ?_, ?_⟩, fun value other permuted => ?_⟩
  · rw [form, wellFormed.normal_normal assignment.type sound]
  · rw [ValidationPlan.validateAll_eq_reports, ValidationPlan.validateAll_eq_reports]
    exact wellFormed.normal_outlines assignment.type sound "$" value
  · exact wellFormed.normal_written assignment.type sound "$" value
  · exact wellFormed.normal_reordered assignment.type sound value
  · rw [form, form, wellFormed.normal_permuted permuted sound]

/-- The unit twice and behind the readings, and a note that the type does not know. -/
def cluttered : Value :=
  .sequence [("readings", .sequenceOf []), ("note", .null), ("unit", .enumerated 2),
    ("unit", .enumerated 7)]

def uncluttered : Value :=
  .sequence [("unit", .enumerated 2), ("unit", .enumerated 7), ("readings", .sequenceOf []),
    ("note", .null)]

/-- The components of `seconds` in declaration order. -/
def orderedSeconds : Value :=
  .sequence [("unit", .enumerated 2),
    ("readings", .sequenceOf [.octetString [10, 255], .octetString []])]

theorem seconds_permuted : Permuted measures measure.type seconds orderedSeconds := by
  apply Permuted.order
  · exact List.Perm.swap _ _ []
  · decide
  · decide

theorem cluttered_reorders_only :
    measures.validate = .ok () ∧ measure ∈ measures.types ∧
      ∃ plan, measures.compile measure.name = .ok plan ∧
        cluttered.normalized measures measure.type = .ok uncluttered ∧
        uncluttered.normalized measures measure.type = .ok uncluttered ∧
        (plan.validateAll uncluttered).map Violation.outline =
          (plan.validateAll cluttered).map Violation.outline ∧
        uncluttered.toJson measures measure.type = cluttered.toJson measures measure.type ∧
        Reordered measures measure.type cluttered uncluttered ∧
        Permuted measures measure.type seconds orderedSeconds ∧
        seconds.normalized measures measure.type =
          orderedSeconds.normalized measures measure.type := by
  obtain ⟨plan, compiled, ordered, settled⟩ :=
    normalized_reorders_only measures rfl measure List.mem_cons_self
  obtain ⟨normal, form, rest⟩ := ordered cluttered
  have expected : cluttered.normalized measures measure.type = .ok uncluttered := rfl
  obtain rfl := Except.ok.inj (expected.symm.trans form)
  obtain ⟨again, outlines, document, reordered⟩ := rest
  exact ⟨rfl, List.mem_cons_self, plan, compiled, expected, again, outlines, document, reordered,
    seconds_permuted, settled seconds orderedSeconds seconds_permuted⟩

end TypeModule

end Asn1Constraints
