import Asn1Constraints.Proofs.Names
import Asn1Constraints.Proofs.PostOrder
import Mathlib

/-!
Where the nodes of a module stand. A node is reached from its type by steps into
components, alternatives and elements, and from the module by the number of the
type. The places are listed outermost first and otherwise in declaration order,
which is the lexicographic order of the numbers on the way.
-/

namespace Asn1Constraints

/-- From a node to one of its parts. -/
inductive PartStep where
  | component (index : ℕ)
  | alternative (index : ℕ)
  | element
deriving DecidableEq

def PartStep.ordinal : PartStep → ℕ
  | .component index => index
  | .alternative index => index
  | .element => 0

/-- The parts with the steps that lead to them. -/
def Shape.steppedParts {Node : Type} : Shape Node → List (PartStep × Node)
  | .sequenceOf _ element => [(.element, element)]
  | .sequence components =>
    components.zipIdx.map fun entry => (.component entry.2, entry.1.type)
  | .choice alternatives =>
    alternatives.zipIdx.map fun entry => (.alternative entry.2, entry.1.type)
  | _ => []

namespace Shape

variable {Node Part : Type} (shape : Shape Node)

theorem steppedParts_map (f : Node → Part) :
    (shape.map f).steppedParts = shape.steppedParts.map fun entry => (entry.1, f entry.2) := by
  cases shape <;> simp [map, steppedParts, List.zipIdx_map, Function.comp_def]

theorem stepped_mem_parts (entry : PartStep × Node) (stepped : entry ∈ shape.steppedParts) :
    entry.2 ∈ shape.parts := by
  cases shape with
  | sequence components =>
      obtain ⟨numbered, member, rfl⟩ := List.mem_map.mp stepped
      exact List.mem_map_of_mem (List.fst_mem_of_mem_zipIdx member)
  | choice alternatives =>
      obtain ⟨numbered, member, rfl⟩ := List.mem_map.mp stepped
      exact List.mem_map_of_mem (List.fst_mem_of_mem_zipIdx member)
  | sequenceOf size element =>
      rw [List.mem_singleton.mp stepped]
      exact List.mem_singleton_self element
  | _ => cases stepped

theorem steppedParts_ascending :
    shape.steppedParts.Pairwise fun entry other => entry.1.ordinal < other.1.ordinal := by
  cases shape with
  | sequence components => exact List.pairwise_map.mpr (zipIdx_ascending components 0)
  | choice alternatives => exact List.pairwise_map.mpr (zipIdx_ascending alternatives 0)
  | _ => simp [steppedParts]

end Shape

namespace TypeNode

def part? : TypeNode → PartStep → Option TypeNode
  | .shaped _ (.sequence components), .component index => components[index]?.map (·.type)
  | .shaped _ (.choice alternatives), .alternative index => alternatives[index]?.map (·.type)
  | .shaped _ (.sequenceOf _ element), .element => some element
  | _, _ => none

def at? (node : TypeNode) : List PartStep → Option TypeNode
  | [] => some node
  | step :: rest => (node.part? step).bind (·.at? rest)

/-- The ways to the nodes of a type, that to the type itself first. -/
def places : TypeNode → List (List PartStep) :=
  fold (fun _ _ => [[]]) fun _ shape =>
    [] :: shape.steppedParts.flatMap fun entry => entry.2.map (entry.1 :: ·)

theorem places_reference (id : ConstraintId) (target : String) :
    (TypeNode.reference id target).places = [[]] := rfl

theorem places_shaped (id : ConstraintId) (shape : Shape TypeNode) :
    (TypeNode.shaped id shape).places =
      [] :: shape.steppedParts.flatMap fun entry => entry.2.places.map (entry.1 :: ·) := by
  rw [places, fold_shaped, Shape.steppedParts_map, List.flatMap_map]

theorem part?_shaped_iff (id : ConstraintId) (shape : Shape TypeNode) (step : PartStep)
    (part : TypeNode) :
    (TypeNode.shaped id shape).part? step = some part ↔ (step, part) ∈ shape.steppedParts := by
  cases shape <;> cases step <;>
    simp [part?, Shape.steppedParts, List.mem_zipIdx_iff_getElem?, eq_comm]

theorem part?_cases {node part : TypeNode} {step : PartStep}
    (reached : node.part? step = some part) :
    (∃ id components index component, node = .shaped id (.sequence components) ∧
        step = .component index ∧ components[index]? = some component ∧ component.type = part) ∨
      (∃ id alternatives index alternative, node = .shaped id (.choice alternatives) ∧
        step = .alternative index ∧ alternatives[index]? = some alternative ∧
          alternative.type = part) ∨
      ∃ id size, node = .shaped id (.sequenceOf size part) ∧ step = .element := by
  unfold part? at reached
  split at reached
  · rename_i id components index
    obtain ⟨component, there, rfl⟩ := Option.map_eq_some_iff.mp reached
    exact .inl ⟨id, components, index, component, rfl, rfl, there, rfl⟩
  · rename_i id alternatives index
    obtain ⟨alternative, there, rfl⟩ := Option.map_eq_some_iff.mp reached
    exact .inr (.inl ⟨id, alternatives, index, alternative, rfl, rfl, there, rfl⟩)
  · rename_i id size element
    cases reached
    exact .inr (.inr ⟨id, size, rfl, rfl⟩)
  · cases reached

/-- A way is listed if and only if it leads to a node. -/
theorem mem_places_iff (node : TypeNode) (steps : List PartStep) :
    steps ∈ node.places ↔ (node.at? steps).isSome := by
  induction node using partsInduction generalizing steps with
  | reference id target => cases steps <;> simp [places_reference, at?, part?]
  | shaped id shape ih =>
      rw [places_shaped]
      cases steps with
      | nil => simp [at?]
      | cons step rest =>
          simp only [List.mem_cons, reduceCtorEq, false_or, List.mem_flatMap, List.mem_map,
            List.cons.injEq]
          -- Both sides step into the same part, and there the steps that are left decide.
          constructor
          · rintro ⟨entry, stepped, ways, listed, rfl, rfl⟩
            have part := (part?_shaped_iff id shape entry.1 entry.2).mpr stepped
            have inner := (ih entry.2 (shape.stepped_mem_parts entry stepped) ways).mp listed
            rwa [at?, part, Option.bind_some]
          · intro reached
            rw [at?] at reached
            cases part : (TypeNode.shaped id shape).part? step with
            | none =>
                rw [part] at reached
                cases reached
            | some inner =>
                rw [part, Option.bind_some] at reached
                have stepped := (part?_shaped_iff id shape step inner).mp part
                have listed := (ih inner (shape.stepped_mem_parts _ stepped) rest).mpr reached
                exact ⟨(step, inner), stepped, rest, listed, rfl, rfl⟩

theorem places_ascending (node : TypeNode) :
    node.places.Pairwise fun steps others =>
      steps.map PartStep.ordinal < others.map PartStep.ordinal := by
  induction node using partsInduction with
  | reference id target => exact List.pairwise_singleton _ _
  | shaped id shape ih =>
      rw [places_shaped, List.pairwise_cons]
      constructor
      · intro steps member
        obtain ⟨entry, _, inside⟩ := List.mem_flatMap.mp member
        obtain ⟨rest, _, rfl⟩ := List.mem_map.mp inside
        exact List.nil_lt_cons _ _
      · rw [List.pairwise_flatMap]
        constructor
        -- Within a part the first number is the same, between parts it decides.
        · intro entry stepped
          apply List.pairwise_map.mpr
          apply (ih entry.2 (shape.stepped_mem_parts entry stepped)).imp
          intro steps others less
          exact List.Lex.cons less
        · apply shape.steppedParts_ascending.imp
          intro entry other less steps inside others alsoInside
          obtain ⟨rest, _, rfl⟩ := List.mem_map.mp inside
          obtain ⟨others, _, rfl⟩ := List.mem_map.mp alsoInside
          exact List.Lex.rel less

end TypeNode

/-- Where a node of a module stands. -/
structure NodePlace where
  /-- The number of the type. -/
  assignment : ℕ
  steps : List PartStep
deriving DecidableEq

def NodePlace.ordinals (place : NodePlace) : List ℕ :=
  place.assignment :: place.steps.map PartStep.ordinal

namespace TypeModule

variable (module : TypeModule)

def node? (place : NodePlace) : Option TypeNode :=
  module.types[place.assignment]?.bind fun assignment => assignment.type.at? place.steps

/-- The places of all nodes, type after type. -/
def places : List NodePlace :=
  module.types.zipIdx.flatMap fun entry =>
    entry.1.type.places.map fun steps => ⟨entry.2, steps⟩

theorem mem_places_iff (place : NodePlace) :
    place ∈ module.places ↔ (module.node? place).isSome := by
  obtain ⟨assignment, steps⟩ := place
  simp only [places, List.mem_flatMap, List.mem_map, NodePlace.mk.injEq]
  constructor
  · rintro ⟨entry, numbered, ways, listed, rfl, rfl⟩
    have declared := List.mem_zipIdx_iff_getElem?.mp numbered
    rw [node?, declared, Option.bind_some]
    exact (entry.1.type.mem_places_iff ways).mp listed
  · intro reached
    rw [node?] at reached
    cases declared : module.types[assignment]? with
    | none =>
        rw [declared] at reached
        cases reached
    | some type =>
        rw [declared, Option.bind_some] at reached
        exact ⟨(type, assignment), List.mem_zipIdx_iff_getElem?.mpr declared, steps,
          (type.type.mem_places_iff steps).mpr reached, rfl, rfl⟩

theorem places_ascending :
    module.places.Pairwise fun place other => place.ordinals < other.ordinals := by
  rw [places, List.pairwise_flatMap]
  constructor
  · intro entry _
    apply List.pairwise_map.mpr
    apply entry.1.type.places_ascending.imp
    intro steps others less
    exact List.Lex.cons less
  · apply (zipIdx_ascending module.types 0).imp
    intro entry other less place inside another alsoInside
    obtain ⟨steps, _, rfl⟩ := List.mem_map.mp inside
    obtain ⟨others, _, rfl⟩ := List.mem_map.mp alsoInside
    exact List.Lex.rel less

end TypeModule

end Asn1Constraints
