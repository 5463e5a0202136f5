import Asn1Constraints.Proofs.Names
import Asn1Constraints.Proofs.Nodes
import Asn1Constraints.TypeModel.WellFormed
import Mathlib

/-!
What the check of the nodes accepts. The order in which a node, its bounds and
its parts are looked at, and the places in the messages, play no part in it: a
check either finds everything sound and every id new, or it fails.
-/

namespace Asn1Constraints

/-- What a shape has to satisfy apart from its parts. -/
def Shape.Sound {Node : Type} : Shape Node → Prop
  | .integer bounds => bounds.min ≤ bounds.max
  | .real bounds =>
    bounds.min.isNaN = false ∧ bounds.max.isNaN = false ∧ bounds.min.rank ≤ bounds.max.rank
  | .boolean | .null => True
  | .enumerated items =>
    items ≠ [] ∧ (items.map (·.name)).Nodup ∧ (items.map (·.value)).Nodup
  | .octetString size | .bitString size | .ia5String size | .sequenceOf size _ =>
    size.minSize ≤ size.maxSize
  | .sequence components => (components.map (·.name)).Nodup
  | .choice alternatives => alternatives ≠ [] ∧ (alternatives.map (·.name)).Nodup

/-- What a node has to satisfy apart from the nodes below it: only booleans and
nulls go without an id, references always do, and their targets are declared. -/
def TypeNode.Sound (module : TypeModule) : TypeNode → Prop
  | .reference id target => id = 0 ∧ ∃ assignment ∈ module.types, assignment.name = target
  | .shaped id shape => (id = 0 → shape = .boolean ∨ shape = .null) ∧ shape.Sound

/-- The ids of a node and of all below it. -/
def TypeNode.ids (node : TypeNode) : List ConstraintId :=
  (node.nodes.map (·.id)).filter (· ≠ 0)

def TypeNode.AllSound (module : TypeModule) (node : TypeNode) : Prop :=
  ∀ inner ∈ node.nodes, inner.Sound module

def Holders.ids (holders : Holders) : List ConstraintId := holders.map (·.1)

/-- A check that enters ids into the table succeeds exactly if what it looks at
is sound and all the ids are new. -/
def Enters (sound : Prop) (ids : List ConstraintId) (holders : Holders) :
    Except Error Holders → Prop
  | .ok after =>
    (sound ∧ ids.Nodup ∧ ids.Disjoint holders.ids) ∧ after.ids = ids.reverse ++ holders.ids
  | .error _ => ¬ (sound ∧ ids.Nodup ∧ ids.Disjoint holders.ids)

namespace Enters

variable {sound further : Prop} {ids others : List ConstraintId} {holders after : Holders}

theorem nothing (holders : Holders) : Enters True [] holders (.ok holders) := by
  simp [Enters]

theorem refused (error : Error) (unsound : ¬ sound) : Enters sound ids holders (.error error) :=
  fun accepted => unsound accepted.1

theorem congr {result : Except Error Holders} (entered : Enters sound ids holders result)
    (same : sound ↔ further) (equal : ids = others) : Enters further others holders result := by
  subst equal
  rwa [← propext same]

theorem stopped {error : Error} (first : Enters sound ids holders (.error error)) :
    Enters (sound ∧ further) (ids ++ others) holders (.error error) := by
  rintro ⟨⟨holds, _⟩, unique, apart⟩
  exact first ⟨holds, unique.of_append_left, (List.disjoint_append_left.mp apart).1⟩

/-- A second check, on the table that the first one leaves. -/
theorem continued {result : Except Error Holders} (first : Enters sound ids holders (.ok after))
    (second : Enters further others after result) :
    Enters (sound ∧ further) (ids ++ others) holders result := by
  obtain ⟨⟨holds, unique, apart⟩, entries⟩ := first
  -- After the first check its ids are in the table too, so new to the table is new to both.
  have separate : others.Disjoint after.ids ↔
      ids.Disjoint others ∧ others.Disjoint holders.ids := by
    rw [entries]
    simp [List.disjoint_append_right, List.disjoint_reverse_right, List.disjoint_comm]
  cases result with
  | ok final =>
      obtain ⟨⟨furtherHolds, othersUnique, othersApart⟩, furtherEntries⟩ := second
      obtain ⟨separated, old⟩ := separate.mp othersApart
      refine ⟨⟨⟨holds, furtherHolds⟩, ?_, ?_⟩, ?_⟩
      · exact List.nodup_append'.mpr ⟨unique, othersUnique, separated⟩
      · exact List.disjoint_append_left.mpr ⟨apart, old⟩
      · simp [furtherEntries, entries]
  | error cause =>
      rintro ⟨⟨_, furtherHolds⟩, bothUnique, bothApart⟩
      obtain ⟨_, othersUnique, separated⟩ := List.nodup_append'.mp bothUnique
      exact second ⟨furtherHolds, othersUnique,
        separate.mpr ⟨separated, (List.disjoint_append_left.mp bothApart).2⟩⟩

/-- One part of several: its name must be new among the parts, then it is checked,
then the parts that follow. -/
theorem named {refusal : Error} {first : Except Error Holders}
    {next : Holders → Except Error Holders} {name : String} {seen names : List String} :
    Enters sound ids holders first →
    (∀ after, Enters ((names.Nodup ∧ names.Disjoint (name :: seen)) ∧ further) others after
      (next after)) →
    Enters (((name :: names).Nodup ∧ (name :: names).Disjoint seen) ∧ sound ∧ further)
      (ids ++ others) holders
      (if seen.contains name then .error refusal else
        match first with
        | .error error => .error error
        | .ok after => next after) := by
  intro part rest
  by_cases known : name ∈ seen
  · rw [if_pos (by simpa using known)]
    exact refused refusal (by simp [known])
  · rw [if_neg (by simpa using known), distinct_cons_iff _ _ _ known, and_left_comm]
    cases first with
    | error cause => exact part.stopped
    | ok after => exact part.continued (rest after)

end Enters

theorem TypeNode.ids_reference (target : String) : (TypeNode.reference 0 target).ids = [] := by
  simp [TypeNode.ids, TypeNode.nodes_reference, TypeNode.id]

theorem TypeNode.ids_shaped (id : ConstraintId) (shape : Shape TypeNode) :
    (TypeNode.shaped id shape).ids =
      (if id = 0 then [] else [id]) ++ shape.parts.flatMap TypeNode.ids := by
  have below : ((shape.parts.flatMap TypeNode.nodes).map (·.id)).filter (· ≠ 0) =
      shape.parts.flatMap TypeNode.ids := by
    rw [List.map_flatMap, List.filter_flatMap]
    rfl
  by_cases none : id = 0 <;>
    simp [TypeNode.ids, TypeNode.nodes_shaped, TypeNode.id, none, ← below]

theorem TypeNode.allSound_shaped (module : TypeModule) (id : ConstraintId)
    (shape : Shape TypeNode) :
    (TypeNode.shaped id shape).AllSound module ↔
      (TypeNode.shaped id shape).Sound module ∧ ∀ part ∈ shape.parts, part.AllSound module := by
  simp only [TypeNode.AllSound, TypeNode.nodes_shaped, List.forall_mem_cons, List.forall_mem_flatMap]

theorem Holders.reserve_enters (holders : Holders) (place : String) (id : ConstraintId)
    (requiresCheck : Bool) :
    Enters (id = 0 → requiresCheck = false) (if id = 0 then [] else [id]) holders
      (holders.reserve place id requiresCheck) := by
  unfold Holders.reserve
  by_cases unset : id = 0
  · cases requiresCheck <;> simp [unset, Enters, fail]
  · cases found : holders.lookup id with
    | none =>
        have fresh := (lookup_eq_none_iff_absent holders id).mp found
        simpa [unset, Enters, Holders.ids] using fresh
    | some holder =>
        have known : id ∈ holders.ids := List.mem_map_of_mem (mem_of_lookup found)
        simp [unset, Enters, fail, known]

theorem checkItems_ok_iff (place : String) (names : List String) (values : List Int64)
    (items : List EnumItem) :
    checkItems place names values items = .ok () ↔
      ((items.map (·.name)).Nodup ∧ (items.map (·.name)).Disjoint names) ∧
        (items.map (·.value)).Nodup ∧ (items.map (·.value)).Disjoint values := by
  induction items generalizing names values with
  | nil => simp [checkItems]
  | cons item rest ih =>
      by_cases nameKnown : item.name ∈ names
      · simp [checkItems, nameKnown, fail]
      · by_cases valueKnown : item.value ∈ values
        · simp [checkItems, nameKnown, valueKnown, fail]
        · rw [List.map_cons, List.map_cons, distinct_cons_iff _ _ _ nameKnown,
            distinct_cons_iff _ _ _ valueKnown, ← ih]
          simp [checkItems, nameKnown, valueKnown]

theorem checkSize_ok_iff (place : String) (size : SizeBounds) :
    checkSize place size = .ok () ↔ size.minSize ≤ size.maxSize := by
  simp [checkSize, SizeBounds.isConsistent, fail]

/-- Names that have to differ among the parts of a shape. -/
def Shape.partNames {Node : Type} : Shape Node → List String
  | .sequence components => components.map (·.name)
  | .choice alternatives => alternatives.map (·.name)
  | _ => []

theorem Shape.sound_iff {Node : Type} (place : String) (shape : Shape Node) :
    shape.Sound ↔ shape.checkBounds place = .ok () ∧ shape.partNames.Nodup := by
  cases shape with
  | enumerated items =>
      cases items <;>
        simp [Shape.Sound, Shape.checkBounds, Shape.partNames, fail, checkItems_ok_iff]
  | choice alternatives =>
      cases alternatives <;> simp [Shape.Sound, Shape.checkBounds, Shape.partNames, fail]
  | _ =>
      simp [Shape.Sound, Shape.checkBounds, Shape.partNames, IntegerBounds.isConsistent,
        RealBounds.isConsistent, Binary64.atMost, checkSize_ok_iff, fail]

namespace TypeNode

theorem checkComponents_enters (module : TypeModule) (components : List (Component TypeNode))
    (each : ∀ component ∈ components, ∀ place holders,
      Enters (component.type.AllSound module) component.type.ids holders
        (component.type.check module place holders))
    (place : String) (seen : List String) (holders : Holders) :
    Enters
      (((components.map (·.name)).Nodup ∧ (components.map (·.name)).Disjoint seen) ∧
        ∀ component ∈ components, component.type.AllSound module)
      (components.flatMap (·.type.ids)) holders
      (checkComponents module place seen holders components) := by
  induction components generalizing seen holders with
  | nil => simpa [checkComponents] using Enters.nothing holders
  | cons component rest ih =>
      obtain ⟨first, others⟩ := List.forall_mem_cons.mp each
      rw [List.map_cons, List.forall_mem_cons, List.flatMap_cons, checkComponents]
      exact Enters.named (first s!"{place}.{component.name}" holders)
        (ih others (component.name :: seen))

theorem checkAlternatives_enters (module : TypeModule)
    (alternatives : List (Alternative TypeNode))
    (each : ∀ alternative ∈ alternatives, ∀ place holders,
      Enters (alternative.type.AllSound module) alternative.type.ids holders
        (alternative.type.check module place holders))
    (place : String) (seen : List String) (holders : Holders) :
    Enters
      (((alternatives.map (·.name)).Nodup ∧ (alternatives.map (·.name)).Disjoint seen) ∧
        ∀ alternative ∈ alternatives, alternative.type.AllSound module)
      (alternatives.flatMap (·.type.ids)) holders
      (checkAlternatives module place seen holders alternatives) := by
  induction alternatives generalizing seen holders with
  | nil => simpa [checkAlternatives] using Enters.nothing holders
  | cons alternative rest ih =>
      obtain ⟨first, others⟩ := List.forall_mem_cons.mp each
      rw [List.map_cons, List.forall_mem_cons, List.flatMap_cons, checkAlternatives]
      exact Enters.named (first s!"{place}.{alternative.name}" holders)
        (ih others (alternative.name :: seen))

theorem checkParts_enters (module : TypeModule) (shape : Shape TypeNode)
    (each : ∀ part ∈ shape.parts, ∀ place holders,
      Enters (part.AllSound module) part.ids holders (part.check module place holders))
    (place : String) (holders : Holders) :
    Enters (shape.partNames.Nodup ∧ ∀ part ∈ shape.parts, part.AllSound module)
      (shape.parts.flatMap ids) holders (checkParts module place holders shape) := by
  cases shape with
  | sequenceOf size element =>
      have entered := each element (by simp [Shape.parts]) (place ++ "[]") holders
      simpa [Shape.parts, Shape.partNames, checkParts] using entered
  | sequence components =>
      have entered := checkComponents_enters module components
        (fun component member => each component.type (List.mem_map_of_mem member))
        place [] holders
      simpa [Shape.parts, Shape.partNames, checkParts, List.flatMap_map] using entered
  | choice alternatives =>
      have entered := checkAlternatives_enters module alternatives
        (fun alternative member => each alternative.type (List.mem_map_of_mem member))
        place [] holders
      simpa [Shape.parts, Shape.partNames, checkParts, List.flatMap_map] using entered
  | _ => simpa [Shape.parts, Shape.partNames, checkParts] using Enters.nothing holders

theorem reference_enters (module : TypeModule) (id : ConstraintId) (target : String)
    (place : String) (holders : Holders) :
    Enters ((TypeNode.reference id target).Sound module) (TypeNode.reference id target).ids holders
      ((TypeNode.reference id target).check module place holders) := by
  have declared := module.find?_isSome_iff target
  unfold check
  by_cases set : id ≠ 0
  · simpa [set, fail] using Enters.refused _ (by simp [Sound, set])
  · obtain rfl : id = 0 := not_not.mp set
    rw [ids_reference]
    cases found : module.find? target with
    | none =>
        rw [found] at declared
        simpa [fail] using Enters.refused _ (by simp [Sound, ← declared])
    | some assignment =>
        rw [found] at declared
        refine (Enters.nothing holders).congr ?_ rfl
        simp [Sound, ← declared]

theorem shape_sound_iff (module : TypeModule) (id : ConstraintId) (shape : Shape TypeNode)
    (place : String) :
    (TypeNode.shaped id shape).Sound module ↔
      (id = 0 → shape.requiresCheck = false) ∧
        shape.checkBounds place = .ok () ∧ shape.partNames.Nodup := by
  rw [← shape.sound_iff place]
  cases shape <;> simp [Sound, Shape.requiresCheck]

/-- A type passes exactly if all its nodes are sound and bring new ids only. -/
theorem check_enters (module : TypeModule) (node : TypeNode) (place : String)
    (holders : Holders) :
    Enters (node.AllSound module) node.ids holders (node.check module place holders) := by
  induction node using partsInduction generalizing place holders with
  | reference id target =>
      refine (reference_enters module id target place holders).congr ?_ rfl
      simp [AllSound, nodes_reference]
  | shaped id shape ih =>
      -- The own id enters the table first, then the bounds are looked at, and last the parts.
      have own := holders.reserve_enters place id shape.requiresCheck
      rw [allSound_shaped, shape_sound_iff module id shape place, ids_shaped]
      unfold check
      cases table : holders.reserve place id shape.requiresCheck with
      | error cause =>
          rw [table] at own
          exact own.stopped.congr and_assoc.symm rfl
      | ok after =>
          rw [table] at own
          cases bounds : shape.checkBounds place with
          | error cause => exact Enters.refused cause (by simp)
          | ok =>
              refine (own.continued (checkParts_enters module shape ih place after)).congr ?_ rfl
              tauto

end TypeNode

end Asn1Constraints
