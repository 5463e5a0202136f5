import Asn1Constraints.Instances.Default
import Asn1Constraints.Proofs.FilledComponents
import Mathlib

/-!
Default instances. In a well-formed module the only thing that can keep a type
from having one is a least size beyond the limit, at a node the instance is
built from; where there is a default instance, it conforms to the type.
-/

namespace Asn1Constraints

namespace TypeNode

/-- Size bounds of a node that has a size. -/
def size? : TypeNode → Option SizeBounds
  | .shaped _ shape => shape.size?
  | .reference _ _ => none

/-- Even the least size of the node is more than an instance is built with. -/
def Oversized (node : TypeNode) : Prop :=
  ∃ size, node.size? = some size ∧ instanceLimit < size.minSize

end TypeNode

/-- The nodes a default instance is built from: the targets of references, the
mandatory components, the first alternative of a choice, and the element of a
collection that cannot be empty. -/
inductive BuiltFrom (module : TypeModule) : TypeNode → TypeNode → Prop where
  | self {node} : BuiltFrom module node node
  | reference {id target assignment inner} :
      module.find? target = some assignment → BuiltFrom module assignment.type inner →
      BuiltFrom module (.reference id target) inner
  | element {id size element inner} :
      0 < size.minSize → BuiltFrom module element inner →
      BuiltFrom module (.shaped id (.sequenceOf size element)) inner
  | component {id components component inner} :
      component ∈ components → component.optional = false →
      BuiltFrom module component.type inner →
      BuiltFrom module (.shaped id (.sequence components)) inner
  | first {id alternative alternatives inner} :
      BuiltFrom module alternative.type inner →
      BuiltFrom module (.shaped id (.choice (alternative :: alternatives))) inner

/-- The error says by how much a node that the instance is built from is too large. -/
def TooLarge (module : TypeModule) (node : TypeNode) (error : Error) : Prop :=
  ∃ inner size, BuiltFrom module node inner ∧ inner.size? = some size ∧
    instanceLimit < size.minSize ∧ error = .malformed (.oversized size.minSize)

/-- What comes of building the default instance of a node. -/
def Defaults (module : TypeModule) (node : TypeNode) : Except Error Value → Prop
  | .ok value => Conforms module node value ∧ ∀ inner, BuiltFrom module node inner → ¬ inner.Oversized
  | .error error => TooLarge module node error

theorem instanceLength_cases (size : UInt64) :
    (instanceLimit < size ∧ instanceLength size = .error (.malformed (.oversized size))) ∨
      (size ≤ instanceLimit ∧ instanceLength size = .ok size.toNat) := by
  unfold instanceLength
  by_cases large : instanceLimit < size
  · exact .inl ⟨large, by simp [large]⟩
  · exact .inr ⟨UInt64.not_lt.mp large, by simp [large]⟩

namespace BuiltFrom

variable {module : TypeModule}

theorem of_bare {id : ConstraintId} {shape : Shape TypeNode} {inner : TypeNode}
    (bare : shape.parts = []) (built : BuiltFrom module (.shaped id shape) inner) :
    inner = .shaped id shape := by
  cases built with
  | self => rfl
  | element _ _ => simp [Shape.parts] at bare
  | component member _ _ => simp_all [Shape.parts]
  | first _ => simp [Shape.parts] at bare

end BuiltFrom

theorem TypeNode.oversized_shaped_iff (id : ConstraintId) (shape : Shape TypeNode)
    (size : SizeBounds) (sized : shape.size? = some size) :
    (TypeNode.shaped id shape).Oversized ↔ instanceLimit < size.minSize := by
  simp [TypeNode.Oversized, TypeNode.size?, sized]

theorem TypeNode.not_oversized_of_unsized (id : ConstraintId) (shape : Shape TypeNode)
    (unsized : shape.size? = none) : ¬ (TypeNode.shaped id shape).Oversized := by
  simp [TypeNode.Oversized, TypeNode.size?, unsized]

namespace Defaults

variable {module : TypeModule}

/-- A shape without parts and without a size. -/
theorem plain {id : ConstraintId} {shape : Shape TypeNode} {value : Value}
    (bare : shape.parts = []) (unsized : shape.size? = none) (fits : shape.Fits value) :
    Defaults module (.shaped id shape) (.ok value) := by
  refine ⟨.of_bare bare fits, fun inner built => ?_⟩
  obtain rfl := built.of_bare bare
  exact TypeNode.not_oversized_of_unsized id shape unsized

/-- A string of the least length. -/
theorem sized {id : ConstraintId} {shape : Shape TypeNode} {size : SizeBounds}
    (make : Nat → Value) (bare : shape.parts = []) (sized : shape.size? = some size)
    (fits : shape.Fits (make size.minSize.toNat)) :
    Defaults module (.shaped id shape) ((instanceLength size.minSize).map make) := by
  rcases instanceLength_cases size.minSize with ⟨large, length⟩ | ⟨small, length⟩
  · rw [length]
    exact ⟨_, size, .self, sized, large, rfl⟩
  · rw [length]
    refine ⟨.of_bare bare fits, fun inner built => ?_⟩
    obtain rfl := built.of_bare bare
    rw [TypeNode.oversized_shaped_iff id shape size sized]
    exact UInt64.not_lt.mpr small

theorem reference {id : ConstraintId} {target : String} {assignment : TypeAssignment}
    {result : Except Error Value} (found : module.find? target = some assignment)
    (defaults : Defaults module assignment.type result) :
    Defaults module (.reference id target) result := by
  cases result with
  | error error =>
      obtain ⟨inner, size, built, large⟩ := defaults
      exact ⟨inner, size, .reference found built, large⟩
  | ok value =>
      refine ⟨.reference found defaults.1, ?_⟩
      rintro inner built ⟨size, sized, large⟩
      cases built with
      | self => simp [TypeNode.size?] at sized
      | reference other below =>
          obtain rfl := Option.some.inj (found.symm.trans other)
          exact defaults.2 inner below ⟨size, sized, large⟩

theorem sequenceOf {id : ConstraintId} {size : SizeBounds} {element : TypeNode}
    (sound : size.minSize ≤ size.maxSize)
    (defaults : Defaults module element ((module.unfold element).defaultInstance module.name)) :
    Defaults module (.shaped id (.sequenceOf size element))
      (TypeTree.defaultOfShape module.name (.sequenceOf size fun _ => module.unfold element)) := by
  have bounds : size.minSize.toNat ≤ size.maxSize.toNat := UInt64.le_iff_toNat_le.mp sound
  rw [TypeTree.defaultOfShape]
  rcases instanceLength_cases size.minSize with ⟨large, length⟩ | ⟨small, length⟩
  · rw [length]
    exact ⟨_, size, .self, rfl, large, rfl⟩
  · have within : ¬ (TypeNode.shaped id (.sequenceOf size element)).Oversized :=
      (TypeNode.oversized_shaped_iff id _ size rfl).not.mpr (UInt64.not_lt.mpr small)
    rw [length]
    -- Without items nothing is built from the element, and its default does not matter.
    cases least : size.minSize.toNat with
    | zero =>
        refine ⟨.shaped ⟨by simp [least], by simp⟩ (by simp [Shape.Assigns]), ?_⟩
        intro inner built
        cases built with
        | self => exact within
        | element positive _ =>
            have := UInt64.lt_iff_toNat_lt.mp positive
            simp [least] at this
    | succ count =>
        have positive : 0 < size.minSize := UInt64.lt_iff_toNat_lt.mpr (by simp [least])
        cases result : (module.unfold element).defaultInstance module.name with
        | error error =>
            rw [result] at defaults
            obtain ⟨inner, other, built, large⟩ := defaults
            exact ⟨inner, other, .element positive built, large⟩
        | ok item =>
            rw [result] at defaults
            refine ⟨.shaped ?_ ?_, ?_⟩
            · simp only [Shape.Fits, List.length_replicate]
              omega
            · rintro part content ⟨member, rfl⟩
              rw [List.eq_of_mem_replicate member]
              exact defaults.1
            · intro inner built
              cases built with
              | self => exact within
              | element _ below => exact defaults.2 inner below

/-- The mandatory components one by one, up to the first that has no default. -/
theorem components (components : List (Component TypeNode))
    (each : ∀ component ∈ components, Defaults module component.type
      ((module.unfold component.type).defaultInstance module.name)) :
    match TypeTree.defaultComponents module.name (components.map fun component =>
        ⟨component.name, component.optional, fun _ => module.unfold component.type⟩) with
    | .ok values => Filled (Conforms module) components values ∧
        ∀ component ∈ components, component.optional = false →
          ∀ inner, BuiltFrom module component.type inner → ¬ inner.Oversized
    | .error error => ∃ component ∈ components, component.optional = false ∧
        TooLarge module component.type error := by
  induction components with
  | nil => exact ⟨.nil, by simp⟩
  | cons component rest ih =>
      obtain ⟨own, others⟩ := List.forall_mem_cons.mp each
      have after := ih others
      obtain ⟨name, optional, type⟩ := component
      simp only [List.map_cons]
      cases optional with
      -- An optional component is left out, whatever its type would give.
      | true =>
          rw [TypeTree.defaultComponents]
          split at after
          · refine ⟨.absent rfl after.1, List.forall_mem_cons.mpr ⟨by simp, after.2⟩⟩
          · obtain ⟨other, member, large⟩ := after
            exact ⟨other, List.mem_cons_of_mem _ member, large⟩
      | false =>
          rw [TypeTree.defaultComponents]
          cases first : (module.unfold type).defaultInstance module.name with
          | error error =>
              rw [first] at own
              exact ⟨_, List.mem_cons_self, rfl, own⟩
          | ok value =>
              rw [first] at own
              split at after
              · rename_i values built
                simp only [built, Except.map]
                exact ⟨.present own.1 after.1,
                  List.forall_mem_cons.mpr ⟨fun _ => own.2, after.2⟩⟩
              · rename_i error failed
                obtain ⟨other, member, large⟩ := after
                simp only [failed, Except.map]
                exact ⟨other, List.mem_cons_of_mem _ member, large⟩

theorem sequence {id : ConstraintId} {components : List (Component TypeNode)}
    (distinct : (components.map (·.name)).Nodup)
    (each : ∀ component ∈ components, Defaults module component.type
      ((module.unfold component.type).defaultInstance module.name)) :
    Defaults module (.shaped id (.sequence components))
      (TypeTree.defaultOfShape module.name (.sequence (components.map fun component =>
        ⟨component.name, component.optional, fun _ => module.unfold component.type⟩))) := by
  have built := Defaults.components components each
  rw [TypeTree.defaultOfShape]
  split at built
  · rename_i values result
    rw [result]
    refine ⟨built.1.conforms distinct, fun inner reached => ?_⟩
    cases reached with
    | self => exact TypeNode.not_oversized_of_unsized id _ rfl
    | component member mandatory below => exact built.2 _ member mandatory inner below
  · rename_i error result
    obtain ⟨component, member, mandatory, inner, size, below, large⟩ := built
    rw [result]
    exact ⟨inner, size, .component member mandatory below, large⟩

theorem choice {id : ConstraintId} {alternatives : List (Alternative TypeNode)}
    (some : alternatives ≠ []) (distinct : (alternatives.map (·.name)).Nodup)
    (each : ∀ alternative ∈ alternatives, Defaults module alternative.type
      ((module.unfold alternative.type).defaultInstance module.name)) :
    Defaults module (.shaped id (.choice alternatives))
      (TypeTree.defaultOfShape module.name (.choice (alternatives.map fun alternative =>
        ⟨alternative.name, fun _ => module.unfold alternative.type⟩))) := by
  -- The first alternative is taken; names are distinct, so its name selects no other.
  obtain ⟨first, rest, rfl⟩ := List.exists_cons_of_ne_nil some
  have own := each first List.mem_cons_self
  rw [List.map_cons, TypeTree.defaultOfShape]
  cases result : (module.unfold first.type).defaultInstance module.name with
  | error error =>
      rw [result] at own
      obtain ⟨inner, size, below, large⟩ := own
      exact ⟨inner, size, .first below, large⟩
  | ok content =>
      rw [result] at own
      refine ⟨.shaped (by simp [Shape.Fits]) ?_, fun inner reached => ?_⟩
      · rintro part inside ⟨alternative, declared, named, rfl, rfl⟩
        obtain rfl := List.inj_on_of_nodup_map distinct List.mem_cons_self declared named
        exact own.1
      · cases reached with
        | self => exact TypeNode.not_oversized_of_unsized id _ rfl
        | first below => exact own.2 inner below

theorem shaped (id : ConstraintId) (shape : Shape TypeNode) (sound : shape.Sound)
    (each : ∀ part ∈ shape.parts,
      Defaults module part ((module.unfold part).defaultInstance module.name)) :
    Defaults module (.shaped id shape)
      (TypeTree.defaultOfShape module.name (shape.map fun part _ => module.unfold part)) := by
  cases shape with
  | integer bounds => exact .plain rfl rfl ⟨Int64.le_refl _, sound⟩
  | real bounds => exact .plain rfl rfl ⟨sound.1, Int.le_refl _, sound.2.2⟩
  | boolean => exact .plain rfl rfl trivial
  | null => exact .plain rfl rfl trivial
  | enumerated items =>
      obtain ⟨first, rest, rfl⟩ := List.exists_cons_of_ne_nil sound.1
      exact .plain rfl rfl (by simp [Shape.Fits])
  | octetString size =>
      have bounds : size.minSize.toNat ≤ size.maxSize.toNat := sound
      exact .sized (fun length => .octetString (List.replicate length 0)) rfl rfl
        (by simpa [Shape.Fits] using bounds)
  | bitString size =>
      have bounds : size.minSize.toNat ≤ size.maxSize.toNat := sound
      exact .sized (fun length => .bitString (List.replicate length false)) rfl rfl
        (by simpa [Shape.Fits] using bounds)
  | ia5String size =>
      have bounds : size.minSize.toNat ≤ size.maxSize.toNat := sound
      exact .sized (fun length => .ia5String (String.ofList (List.replicate length ' '))) rfl rfl
        (by simpa [Shape.Fits] using bounds)
  | sequenceOf size element => exact .sequenceOf sound (each element (by simp [Shape.parts]))
  | sequence components =>
      exact .sequence sound fun component member => each _ (List.mem_map_of_mem member)
  | choice alternatives =>
      exact .choice sound.1 sound.2 fun alternative member => each _ (List.mem_map_of_mem member)

end Defaults

namespace TypeModule

theorem WellFormed.defaults {module : TypeModule} (wellFormed : module.WellFormed)
    (node : TypeNode) (sound : node.AllSound module) :
    Defaults module node (module.defaultInstance node) := by
  apply wellFormed.induction ?_ ?_ node sound
  · intro id target assignment found ih
    rw [defaultInstance, unfold_reference wellFormed.acyclic id target assignment found]
    exact .reference found ih
  · intro id shape sound ih
    have shapeSound := (sound _ (TypeNode.self_mem_nodes _)).2
    rw [defaultInstance, unfold_shaped, TypeTree.defaultInstance]
    exact .shaped id shape shapeSound ih

/-- The default instance of a declared type passes its plan. There is one unless
a node it is built from is too large, and nothing else is ever wrong. -/
theorem defaultInstance_valid_or_too_large (module : TypeModule)
    (accepted : module.validate = .ok ()) (assignment : TypeAssignment)
    (declared : assignment ∈ module.types) :
    ∃ plan, module.compile assignment.name = .ok plan ∧
      (∀ value, module.defaultInstance assignment.type = .ok value →
        plan.validate value = .ok ()) ∧
      ((∃ error, module.defaultInstance assignment.type = .error error) ↔
        ∃ inner, BuiltFrom module assignment.type inner ∧ inner.Oversized) ∧
      ∀ error, module.defaultInstance assignment.type = .error error →
        TooLarge module assignment.type error := by
  have wellFormed := wellFormed_of_validate accepted
  have sound := wellFormed.allSound assignment declared
  obtain ⟨plan, compiled, accepts⟩ := wellFormed.accepting_plan accepted assignment declared
  have built := wellFormed.defaults assignment.type sound
  refine ⟨plan, compiled, ?_, ?_, ?_⟩
  · intro value result
    rw [result] at built
    exact (accepts value).mpr built.1
  · cases result : module.defaultInstance assignment.type with
    | ok value =>
        rw [result] at built
        refine iff_of_false (by simp) ?_
        rintro ⟨inner, below, oversized⟩
        exact built.2 inner below oversized
    | error error =>
        rw [result] at built
        obtain ⟨inner, size, below, sized, large, _⟩ := built
        exact iff_of_true ⟨error, rfl⟩ ⟨inner, below, size, sized, large⟩
  · intro error result
    rw [result] at built
    exact built

def reading : TypeAssignment :=
  ⟨"Reading", .shaped 1 (.sequence [⟨"levels", false, .shaped 2 (.sequenceOf ⟨2, 4⟩
    (.reference 0 "Level"))⟩, ⟨"dump", true, .shaped 3 (.octetString ⟨20000000, 20000000⟩)⟩])⟩

/-- Readings of two to four levels; the dump is too large for an instance. -/
def readings : TypeModule :=
  ⟨modelVersion, "Readings", [reading, ⟨"Level", .shaped 4 (.choice
    [⟨"low", .shaped 0 .null⟩, ⟨"at", .shaped 5 (.integer ⟨-3, 3⟩)⟩])⟩]⟩

example : readings.defaultInstance reading.type = .ok (.sequence [("levels",
    .sequenceOf [.choice "low" .null, .choice "low" .null])]) := rfl

theorem readings_default_valid :
    readings.validate = .ok () ∧ reading ∈ readings.types ∧
      ∃ plan, readings.compile reading.name = .ok plan ∧
        (∀ value, readings.defaultInstance reading.type = .ok value →
          plan.validate value = .ok ()) ∧
        ((∃ error, readings.defaultInstance reading.type = .error error) ↔
          ∃ inner, BuiltFrom readings reading.type inner ∧ inner.Oversized) ∧
        ∀ error, readings.defaultInstance reading.type = .error error →
          TooLarge readings reading.type error :=
  ⟨rfl, List.mem_cons_self,
    defaultInstance_valid_or_too_large readings rfl reading List.mem_cons_self⟩

end TypeModule

end Asn1Constraints
