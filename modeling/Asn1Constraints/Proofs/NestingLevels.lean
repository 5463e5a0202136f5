import Asn1Constraints.Proofs.Results
import Asn1Constraints.Proofs.Unfolding
import Asn1Constraints.Value.Document
import Asn1Constraints.Value.Normal
import Mathlib

/-!
Documents and normal forms without the number of levels. A recursion that goes
down one level with each part needs no more levels than its subject has, so
reading, writing and normalizing are what their shapes make of the parts, and a
reference is treated as its target.
-/

namespace Asn1Constraints

/-- A recursion on levels whose step looks at deeper subjects only comes to the
same with any number of levels that is enough. -/
theorem levels_enough {Subject Result : Type} (depth : Subject → Nat)
    (within : Nat → Subject → Result) (step : (Subject → Result) → Subject → Result)
    (descends : ∀ levels subject, within (levels + 1) subject = step (within levels) subject)
    (parts : ∀ one other subject, (∀ part, depth part < depth subject → one part = other part) →
      step one subject = step other subject) (levels : Nat) (subject : Subject)
    (enough : depth subject < levels) :
    within levels subject = within (depth subject + 1) subject := by
  induction levels using Nat.strongRecOn generalizing subject with
  | ind levels ih =>
      obtain ⟨levels, rfl⟩ : ∃ below, levels = below + 1 := ⟨levels - 1, by omega⟩
      -- Both sides take one step, and either number of levels is enough for the parts.
      rcases Nat.lt_succ_iff_lt_or_eq.mp enough with more | exact
      · rw [descends, descends]
        apply parts
        intro part deeper
        rw [ih levels (by omega) part (by omega), ih (depth subject) (by omega) part deeper]
      · rw [exact]

/-- With its levels out of the way such a recursion is its step. -/
theorem levels_step {Subject Result : Type} (depth : Subject → Nat)
    (within : Nat → Subject → Result) (step : (Subject → Result) → Subject → Result)
    (descends : ∀ levels subject, within (levels + 1) subject = step (within levels) subject)
    (parts : ∀ one other subject, (∀ part, depth part < depth subject → one part = other part) →
      step one subject = step other subject) (subject : Subject) :
    within (depth subject + 1) subject =
      step (fun part => within (depth part + 1) part) subject := by
  rw [descends]
  apply parts
  exact fun part deeper => levels_enough depth within step descends parts _ part deeper

/-- A list is as deep as the deepest of its items, so no item is deeper. -/
theorem depth_le_of_mem {Item : Type} (depth : Item → Nat) (total : List Item → Nat)
    (deepest : ∀ item rest, total (item :: rest) = max (depth item) (total rest))
    {items : List Item} {item : Item} (member : item ∈ items) : depth item ≤ total items := by
  induction items with
  | nil => cases member
  | cons first rest ih =>
      rw [deepest]
      rcases List.mem_cons.mp member with rfl | later
      · exact Nat.le_max_left _ _
      · exact Nat.le_trans (ih later) (Nat.le_max_right _ _)

theorem Value.item_depth_le {items : List Value} {item : Value} (member : item ∈ items) :
    item.depth ≤ itemsDepth items :=
  depth_le_of_mem depth itemsDepth (fun _ _ => rfl) member

theorem Value.component_depth_le {components : List (String × Value)} {name : String}
    {value : Value} (member : (name, value) ∈ components) :
    value.depth ≤ componentsDepth components :=
  depth_le_of_mem (fun entry => entry.2.depth) componentsDepth (fun _ _ => rfl) member

theorem Json.item_depth_le {items : List Json} {item : Json} (member : item ∈ items) :
    item.depth ≤ itemsDepth items :=
  depth_le_of_mem depth itemsDepth (fun _ _ => rfl) member

theorem Json.member_depth_le {members : List (String × Json)} {name : String} {value : Json}
    (member : (name, value) ∈ members) : value.depth ≤ membersDepth members :=
  depth_le_of_mem (fun entry => entry.2.depth) membersDepth (fun _ _ => rfl) member

namespace Value

/-! Writing. -/

theorem writeElements_congr {one other : PartWriter} {element : TypeNode} (items : List Value)
    (same : ∀ place, ∀ item ∈ items, one place element item = other place element item)
    (place : String) (index : Nat) :
    writeElements one place element index items = writeElements other place element index items := by
  induction items generalizing index with
  | nil => rfl
  | cons item rest ih =>
      have after := ih (fun place inner later => same place inner (List.mem_cons_of_mem _ later))
      rw [writeElements, writeElements, same _ item List.mem_cons_self, after]

theorem writeComponents_congr {one other : PartWriter} (values : List (String × Value))
    (same : ∀ place node name value, (name, value) ∈ values →
      one place node value = other place node value)
    (place : String) (components : List (Component TypeNode)) :
    writeComponents one place values components = writeComponents other place values components := by
  induction components with
  | nil => rfl
  | cons component rest ih =>
      rw [writeComponents, writeComponents]
      cases found : values.lookup component.name with
      | none => exact ih
      | some value =>
          simp only
          rw [same _ _ _ _ (mem_of_lookup found), ih]

theorem writeShape_congr {one other : PartWriter} (place : String) (shape : Shape TypeNode)
    (value : Value) (same : ∀ place node part, part.depth < value.depth →
      one place node part = other place node part) :
    writeShape one place shape value = writeShape other place shape value := by
  cases shape with
  | sequenceOf size element =>
      cases value with
      | sequenceOf items =>
          rw [writeShape, writeShape, writeElements_congr items]
          intro place item member
          exact same _ _ _ (Nat.lt_succ_of_le (item_depth_le member))
      | _ => rfl
  | sequence components =>
      cases value with
      | sequence values =>
          rw [writeShape, writeShape, writeComponents_congr values]
          intro place node name part member
          exact same _ _ _ (Nat.lt_succ_of_le (component_depth_le member))
      | _ => rfl
  | choice alternatives =>
      cases value with
      | choice name content =>
          have inside : ∀ place node, one place node content = other place node content :=
            fun place node => same _ _ _ (Nat.lt_succ_self _)
          simp only [writeShape, writeAlternative, inside]
      | _ => rfl
  | _ => cases value <;> rfl

/-- A part written at its place, whatever its level. -/
def writePart (module : TypeModule) : PartWriter :=
  fun place node value => toJsonWithin module (value.depth + 1) place node value

theorem writePart_eq (module : TypeModule) (place : String) (node : TypeNode) (value : Value) :
    writePart module place node value =
      match module.resolve node with
      | .error error => .error error
      | .ok resolved => writeShape (writePart module) place resolved.shape value := by
  refine levels_step (fun subject : String × TypeNode × Value => subject.2.2.depth)
    (fun levels subject => toJsonWithin module levels subject.1 subject.2.1 subject.2.2)
    (fun part subject =>
      match module.resolve subject.2.1 with
      | .error error => .error error
      | .ok resolved =>
        writeShape (fun place node value => part (place, node, value)) subject.1 resolved.shape
          subject.2.2)
    (fun levels subject => rfl) ?_ (place, node, value)
  intro one other subject same
  cases module.resolve subject.2.1 with
  | error error => rfl
  | ok resolved => exact writeShape_congr _ _ _ fun place node part => same (place, node, part)

/-! Reading. -/

theorem readElements_congr {one other : PartReader} {element : TypeNode} (items : List Json)
    (same : ∀ place, ∀ item ∈ items, one place element item = other place element item)
    (place : String) (index : Nat) :
    readElements one place element index items = readElements other place element index items := by
  induction items generalizing index with
  | nil => rfl
  | cons item rest ih =>
      have after := ih (fun place inner later => same place inner (List.mem_cons_of_mem _ later))
      rw [readElements, readElements, same _ item List.mem_cons_self, after]

theorem readComponents_congr {one other : PartReader} (members : Members)
    (same : ∀ place node name json, (name, json) ∈ members →
      one place node json = other place node json)
    (place : String) (components : List (Component TypeNode)) :
    readComponents one place members components = readComponents other place members components := by
  induction components with
  | nil => rfl
  | cons component rest ih =>
      rw [readComponents, readComponents]
      cases found : members.lookup component.name with
      | none => exact ih
      | some json =>
          simp only
          rw [same _ _ _ _ (mem_of_lookup found), ih]

theorem readShape_elements (part : PartReader) (place : String) (size : SizeBounds)
    (element : TypeNode) (items : List Json) :
    readShape part place (.sequenceOf size element) (.array items) =
      (readElements part place element 0 items).map .sequenceOf := by
  change (readElements part place element 0 items >>= fun values => pure (sequenceOf values)) = _
  cases readElements part place element 0 items <;> rfl

theorem readShape_components (part : PartReader) (place : String)
    (components : List (Component TypeNode)) (members : Members) :
    readShape part place (.sequence components) (.object members) =
      match undeclared? components members with
      | some (name, _) => invalid place (.unknownComponent name)
      | none => (readComponents part place members components).map .sequence := by
  change (match undeclared? components members with
    | some (name, _) => invalid place (.unknownComponent name)
    | none => readComponents part place members components >>= fun values =>
        pure (sequence values)) = _
  cases undeclared? components members with
  | some member => rfl
  | none => cases readComponents part place members components <;> rfl

theorem readShape_alternative (part : PartReader) (place : String)
    (alternatives : List (Alternative TypeNode)) (name : String) (content : Json) :
    readShape part place (.choice alternatives) (.object [(name, content)]) =
      readAlternative part place alternatives name content := rfl

theorem readShape_congr {one other : PartReader} (place : String) (shape : Shape TypeNode)
    (json : Json) (same : ∀ place node part, part.depth < json.depth →
      one place node part = other place node part) :
    readShape one place shape json = readShape other place shape json := by
  cases shape with
  | sequenceOf size element =>
      cases json with
      | array items =>
          rw [readShape_elements, readShape_elements, readElements_congr items]
          intro place item member
          exact same _ _ _ (Nat.lt_succ_of_le (Json.item_depth_le member))
      | _ => rfl
  | sequence components =>
      cases json with
      | object members =>
          rw [readShape_components, readShape_components, readComponents_congr members]
          intro place node name part member
          exact same _ _ _ (Nat.lt_succ_of_le (Json.member_depth_le member))
      | _ => rfl
  | choice alternatives =>
      cases json with
      | object members =>
          match members with
          | [] => rfl
          | [(name, content)] =>
              have inside : ∀ place node, one place node content = other place node content :=
                fun place node => same _ _ _
                  (Nat.lt_succ_of_le (Json.member_depth_le List.mem_cons_self))
              simp only [readShape_alternative, readAlternative, inside]
          | _ :: _ :: _ => rfl
      | _ => rfl
  | _ => rfl

/-- A part read at its place, whatever its level. -/
def readPart (module : TypeModule) : PartReader :=
  fun place node json => ofJsonWithin module (json.depth + 1) place node json

theorem readPart_eq (module : TypeModule) (place : String) (node : TypeNode) (json : Json) :
    readPart module place node json =
      match module.resolve node with
      | .error error => .error error
      | .ok resolved => readShape (readPart module) place resolved.shape json := by
  refine levels_step (fun subject : String × TypeNode × Json => subject.2.2.depth)
    (fun levels subject => ofJsonWithin module levels subject.1 subject.2.1 subject.2.2)
    (fun part subject =>
      match module.resolve subject.2.1 with
      | .error error => .error error
      | .ok resolved =>
        readShape (fun place node json => part (place, node, json)) subject.1 resolved.shape
          subject.2.2)
    (fun levels subject => rfl) ?_ (place, node, json)
  intro one other subject same
  cases module.resolve subject.2.1 with
  | error error => rfl
  | ok resolved => exact readShape_congr _ _ _ fun place node part => same (place, node, part)

/-! Normalizing. -/

theorem normalizeNamed_congr {one other : PartNormalizer} (component : Component TypeNode)
    (values : List (String × Value))
    (same : ∀ node name value, (name, value) ∈ values → one node value = other node value) :
    normalizeNamed one component values = normalizeNamed other component values := by
  induction values with
  | nil => rfl
  | cons entry rest ih =>
      obtain ⟨name, value⟩ := entry
      have after := ih fun node name value later =>
        same node name value (List.mem_cons_of_mem _ later)
      rw [normalizeNamed, normalizeNamed, same _ _ _ List.mem_cons_self, after]

theorem normalizeDeclared_congr {one other : PartNormalizer} (values : List (String × Value))
    (same : ∀ node name value, (name, value) ∈ values → one node value = other node value)
    (components : List (Component TypeNode)) :
    normalizeDeclared one values components = normalizeDeclared other values components := by
  induction components with
  | nil => rfl
  | cons component rest ih =>
      rw [normalizeDeclared, normalizeDeclared, normalizeNamed_congr component values same, ih]

theorem normalizeShape_congr {one other : PartNormalizer} (shape : Shape TypeNode) (value : Value)
    (same : ∀ node part, part.depth < value.depth → one node part = other node part) :
    normalizeShape one shape value = normalizeShape other shape value := by
  cases shape with
  | sequenceOf size element =>
      cases value with
      | sequenceOf items =>
          have each : items.mapM (one element) = items.mapM (other element) :=
            mapM_congr items fun item member =>
              same _ _ (Nat.lt_succ_of_le (item_depth_le member))
          rw [normalizeShape, normalizeShape, each]
      | _ => rfl
  | sequence components =>
      cases value with
      | sequence values =>
          rw [normalizeShape, normalizeShape, normalizeDeclared_congr values]
          intro node name part member
          exact same _ _ (Nat.lt_succ_of_le (component_depth_le member))
      | _ => rfl
  | choice alternatives =>
      cases value with
      | choice name content =>
          have inside : ∀ node, one node content = other node content :=
            fun node => same _ _ (Nat.lt_succ_self _)
          simp only [normalizeShape, inside]
      | _ => rfl
  | _ => cases value <;> rfl

theorem normalized_eq (module : TypeModule) (node : TypeNode) (value : Value) :
    normalized module node value =
      match module.resolve node with
      | .error error => .error error
      | .ok resolved => normalizeShape (normalized module) resolved.shape value := by
  refine levels_step (fun subject : TypeNode × Value => subject.2.depth)
    (fun levels subject => normalizedWithin module levels subject.1 subject.2)
    (fun part subject =>
      match module.resolve subject.1 with
      | .error error => .error error
      | .ok resolved =>
        normalizeShape (fun node value => part (node, value)) resolved.shape subject.2)
    (fun levels subject => rfl) ?_ (node, value)
  intro one other subject same
  cases module.resolve subject.1 with
  | error error => rfl
  | ok resolved => exact normalizeShape_congr _ _ fun node part => same (node, part)

/-! Shapes and references. -/

section

variable (module : TypeModule) (place : String) (id : ConstraintId) (shape : Shape TypeNode)
  (value : Value) (json : Json)

theorem writePart_shaped : writePart module place (.shaped id shape) value =
    writeShape (writePart module) place shape value :=
  writePart_eq module place (.shaped id shape) value

theorem readPart_shaped : readPart module place (.shaped id shape) json =
    readShape (readPart module) place shape json :=
  readPart_eq module place (.shaped id shape) json

theorem normalized_shaped : normalized module (.shaped id shape) value =
    normalizeShape (normalized module) shape value :=
  normalized_eq module (.shaped id shape) value

end

section

variable {module : TypeModule} {id : ConstraintId} {target : String} {assignment : TypeAssignment}
  (found : module.find? target = some assignment)

include found

theorem writePart_reference (place : String) (value : Value) :
    writePart module place (.reference id target) value =
      writePart module place assignment.type value := by
  rw [writePart_eq, TypeModule.resolve_reference found, ← writePart_eq]

theorem readPart_reference (place : String) (json : Json) :
    readPart module place (.reference id target) json =
      readPart module place assignment.type json := by
  rw [readPart_eq, TypeModule.resolve_reference found, ← readPart_eq]

theorem normalized_reference (value : Value) :
    normalized module (.reference id target) value = normalized module assignment.type value := by
  rw [normalized_eq, TypeModule.resolve_reference found, ← normalized_eq]

end

end Value

end Asn1Constraints
