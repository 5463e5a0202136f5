import Asn1Constraints.Proofs.Unfolding
import Asn1Constraints.TypeModel.Numbering
import Mathlib

/-!
A type taken apart: what is left of it without the ids of its shaped nodes, and
these ids, those of the parts before that of the whole. Both are folds over the
node. Numbering leaves the first alone, and on the second it goes through the
list from left to right.
-/

namespace Asn1Constraints

/-! Replace a node from the inside out. -/

section Folding

variable {Result : Type} (reference : ConstraintId → String → Result)
  (shaped : ConstraintId → Shape Result → Result)

mutual

def TypeNode.fold : TypeNode → Result
  | .reference id target => reference id target
  | .shaped id shape => shaped id (foldParts shape)

def foldParts : Shape TypeNode → Shape Result
  | .integer bounds => .integer bounds
  | .real bounds => .real bounds
  | .boolean => .boolean
  | .null => .null
  | .enumerated items => .enumerated items
  | .octetString size => .octetString size
  | .bitString size => .bitString size
  | .ia5String size => .ia5String size
  | .sequenceOf size element => .sequenceOf size element.fold
  | .sequence components => .sequence (foldComponents components)
  | .choice alternatives => .choice (foldAlternatives alternatives)

def foldComponents : List (Component TypeNode) → List (Component Result)
  | [] => []
  | ⟨name, optional, type⟩ :: rest => ⟨name, optional, type.fold⟩ :: foldComponents rest

def foldAlternatives : List (Alternative TypeNode) → List (Alternative Result)
  | [] => []
  | ⟨name, type⟩ :: rest => ⟨name, type.fold⟩ :: foldAlternatives rest

end

theorem foldComponents_eq_map (components : List (Component TypeNode)) :
    foldComponents reference shaped components = components.map fun component =>
      ⟨component.name, component.optional, component.type.fold reference shaped⟩ := by
  induction components with
  | nil => rfl
  | cons component rest ih => rw [foldComponents, ih, List.map_cons]

theorem foldAlternatives_eq_map (alternatives : List (Alternative TypeNode)) :
    foldAlternatives reference shaped alternatives = alternatives.map fun alternative =>
      ⟨alternative.name, alternative.type.fold reference shaped⟩ := by
  induction alternatives with
  | nil => rfl
  | cons alternative rest ih => rw [foldAlternatives, ih, List.map_cons]

theorem TypeNode.fold_shaped (id : ConstraintId) (shape : Shape TypeNode) :
    (TypeNode.shaped id shape).fold reference shaped =
      shaped id (shape.map (TypeNode.fold reference shaped)) := by
  rw [TypeNode.fold]
  congr 1
  cases shape <;> simp [foldParts, Shape.map, foldComponents_eq_map, foldAlternatives_eq_map]

end Folding

theorem Shape.parts_map {Node Part : Type} (f : Node → Part) (shape : Shape Node) :
    (shape.map f).parts = shape.parts.map f := by
  cases shape <;> simp [map, parts, Function.comp_def]

theorem eq_of_maps {Item Left Right : Type} {left : Item → Left} {right : Item → Right}
    (apart : ∀ item other, left item = left other → right item = right other → item = other)
    {items others : List Item} (first : items.map left = others.map left)
    (second : items.map right = others.map right) : items = others := by
  induction items generalizing others with
  | nil => simpa using first.symm
  | cons item rest ih =>
      cases others with
      | nil => simp at first
      | cons other others =>
          simp only [List.map_cons, List.cons.injEq] at first second
          rw [apart item other first.1 second.1, ih first.2 second.2]

/-- A shape is known by its parts and by what is around them. -/
theorem Shape.eq_of_parts {Node Part : Type} (f : Node → Part) {shape other : Shape Node}
    (around : shape.map f = other.map f) (parts : shape.parts = other.parts) : shape = other := by
  cases shape <;> cases other <;> simp only [map, reduceCtorEq] at around
  case sequenceOf size element otherSize otherElement =>
    obtain rfl : element = otherElement := by simpa [Shape.parts] using parts
    obtain rfl : size = otherSize := by simpa using around
    rfl
  case sequence components others =>
    rw [eq_of_maps ?_ (Shape.sequence.inj around) parts]
    rintro ⟨_, _, _⟩ ⟨_, _, _⟩ around same
    simp_all
  case choice alternatives others =>
    rw [eq_of_maps ?_ (Shape.choice.inj around) parts]
    rintro ⟨_, _⟩ ⟨_, _⟩ around same
    simp_all
  all_goals simp_all

namespace TypeNode

/-- The node without the ids of what is shaped in it; references stay as they are. -/
def erased : TypeNode → TypeNode := fold .reference fun _ shape => .shaped 0 shape

/-- The ids of what is shaped in the node, 0 where there is none, parts first. -/
def postIds : TypeNode → List ConstraintId :=
  fold (fun _ _ => []) fun id shape => shape.parts.flatten ++ [id]

theorem erased_reference (id : ConstraintId) (target : String) :
    (TypeNode.reference id target).erased = .reference id target := rfl

theorem erased_shaped (id : ConstraintId) (shape : Shape TypeNode) :
    (TypeNode.shaped id shape).erased = .shaped 0 (shape.map erased) :=
  fold_shaped _ _ id shape

theorem postIds_reference (id : ConstraintId) (target : String) :
    (TypeNode.reference id target).postIds = [] := rfl

theorem postIds_shaped (id : ConstraintId) (shape : Shape TypeNode) :
    (TypeNode.shaped id shape).postIds = shape.parts.flatMap postIds ++ [id] := by
  rw [postIds, fold_shaped, Shape.parts_map]
  rfl

/-! What is left and the ids together make up the node. -/

/-- Whatever follows the ids, no other node has the same rest and begins with the same ids. -/
def Determined (node : TypeNode) : Prop :=
  ∀ other ids others, node.erased = other.erased → node.postIds ++ ids = other.postIds ++ others →
    node = other ∧ ids = others

theorem parts_determined (parts : List TypeNode) (each : ∀ part ∈ parts, part.Determined)
    (others : List TypeNode) (ids rest : List ConstraintId)
    (bare : parts.map erased = others.map erased)
    (same : parts.flatMap postIds ++ ids = others.flatMap postIds ++ rest) :
    parts = others ∧ ids = rest := by
  induction parts generalizing others with
  | nil =>
      obtain rfl : others = [] := by simpa using bare.symm
      exact ⟨rfl, by simpa using same⟩
  | cons part parts ih =>
      cases others with
      | nil => simp at bare
      | cons other others =>
          obtain ⟨own, following⟩ := List.forall_mem_cons.mp each
          simp only [List.map_cons, List.cons.injEq] at bare
          simp only [List.flatMap_cons, List.append_assoc] at same
          obtain ⟨rfl, behind⟩ := own other _ _ bare.1 same
          obtain ⟨rfl, rest⟩ := ih following others bare.2 behind
          exact ⟨rfl, rest⟩

theorem determined (node : TypeNode) : node.Determined := by
  induction node using partsInduction with
  | reference id target =>
      intro other ids others bare same
      cases other with
      | reference => exact ⟨bare, same⟩
      | shaped => simp [erased_reference, erased_shaped] at bare
  | shaped id shape ih =>
      intro other ids others bare same
      cases other with
      | reference => simp [erased_reference, erased_shaped] at bare
      | shaped otherId otherShape =>
          simp only [erased_shaped, TypeNode.shaped.injEq, true_and] at bare
          simp only [postIds_shaped, List.append_assoc, List.singleton_append] at same
          -- The parts use up their ids; the next one is the id of the whole.
          have bareParts : shape.parts.map erased = otherShape.parts.map erased := by
            rw [← Shape.parts_map, ← Shape.parts_map, bare]
          obtain ⟨parts, rest⟩ :=
            parts_determined shape.parts ih otherShape.parts _ _ bareParts same
          obtain ⟨rfl, rfl⟩ := List.cons.inj rest
          rw [Shape.eq_of_parts erased bare parts]
          exact ⟨rfl, rfl⟩

end TypeNode

/-- Give an id to each place of a list that has none. -/
def Numbering.fill (numbering : Numbering) :
    List ConstraintId → List ConstraintId × Numbering
  | [] => ([], numbering)
  | id :: rest =>
    let (id, numbering) := numbering.idFor id
    let (rest, numbering) := numbering.fill rest
    (id :: rest, numbering)

theorem Numbering.fill_append (numbering : Numbering) (ids others : List ConstraintId) :
    numbering.fill (ids ++ others) =
      ((numbering.fill ids).1 ++ ((numbering.fill ids).2.fill others).1,
        ((numbering.fill ids).2.fill others).2) := by
  induction ids generalizing numbering with
  | nil => rfl
  | cons id rest ih => simp [fill, ih]

/-- What is numbered keeps all but its ids, and its ids are filled in order. -/
structure Fills {Subject Bare : Type} (bare : Subject → Bare)
    (ids : Subject → List ConstraintId) (before : Numbering) (subject : Subject)
    (result : Subject × Numbering) : Prop where
  bare : bare result.1 = bare subject
  filled : before.fill (ids subject) = (ids result.1, result.2)

namespace TypeNode

theorem numberComponents_fills (components : List (Component TypeNode))
    (each : ∀ component ∈ components, ∀ numbering,
      Fills erased postIds numbering component.type (component.type.number numbering))
    (numbering : Numbering) :
    Fills (fun components => (Shape.sequence components).map erased)
      (fun components => (components.map (·.type)).flatMap postIds) numbering components
      (numberComponents numbering components) := by
  induction components generalizing numbering with
  | nil => exact ⟨rfl, rfl⟩
  | cons component rest ih =>
      obtain ⟨own, others⟩ := List.forall_mem_cons.mp each
      have first := own numbering
      have following := ih others (component.type.number numbering).2
      have bare := following.bare
      simp only [Shape.map, Shape.sequence.injEq] at bare
      constructor
      · simp [numberComponents, Shape.map, first.bare, bare]
      · simp only [List.map_cons, List.flatMap_cons, Numbering.fill_append, first.filled,
          following.filled, numberComponents]

theorem numberAlternatives_fills (alternatives : List (Alternative TypeNode))
    (each : ∀ alternative ∈ alternatives, ∀ numbering,
      Fills erased postIds numbering alternative.type (alternative.type.number numbering))
    (numbering : Numbering) :
    Fills (fun alternatives => (Shape.choice alternatives).map erased)
      (fun alternatives => (alternatives.map (·.type)).flatMap postIds) numbering alternatives
      (numberAlternatives numbering alternatives) := by
  induction alternatives generalizing numbering with
  | nil => exact ⟨rfl, rfl⟩
  | cons alternative rest ih =>
      obtain ⟨own, others⟩ := List.forall_mem_cons.mp each
      have first := own numbering
      have following := ih others (alternative.type.number numbering).2
      have bare := following.bare
      simp only [Shape.map, Shape.choice.injEq] at bare
      constructor
      · simp [numberAlternatives, Shape.map, first.bare, bare]
      · simp only [List.map_cons, List.flatMap_cons, Numbering.fill_append, first.filled,
          following.filled, numberAlternatives]

theorem numberParts_fills (shape : Shape TypeNode)
    (each : ∀ part ∈ shape.parts, ∀ numbering,
      Fills erased postIds numbering part (part.number numbering))
    (numbering : Numbering) :
    Fills (Shape.map erased) (fun shape => shape.parts.flatMap postIds) numbering shape
      (numberParts numbering shape) := by
  cases shape with
  | sequenceOf size element =>
      have inside := each element (by simp [Shape.parts]) numbering
      exact ⟨by simp [numberParts, Shape.map, inside.bare],
        by simp [numberParts, Shape.parts, inside.filled]⟩
  | sequence components =>
      obtain ⟨bare, filled⟩ := numberComponents_fills components
        (fun component member => each _ (List.mem_map_of_mem member)) numbering
      exact ⟨bare, filled⟩
  | choice alternatives =>
      obtain ⟨bare, filled⟩ := numberAlternatives_fills alternatives
        (fun alternative member => each _ (List.mem_map_of_mem member)) numbering
      exact ⟨bare, filled⟩
  | _ => exact ⟨rfl, rfl⟩

theorem number_fills (node : TypeNode) (numbering : Numbering) :
    Fills erased postIds numbering node (node.number numbering) := by
  induction node using partsInduction generalizing numbering with
  | reference id target => exact ⟨rfl, rfl⟩
  | shaped id shape ih =>
      obtain ⟨bare, filled⟩ := numberParts_fills shape ih numbering
      constructor
      · simp only [number, erased_shaped, bare]
      · simp only [number, postIds_shaped, Numbering.fill_append, filled, Numbering.fill]

end TypeNode

def TypeAssignment.erased (assignment : TypeAssignment) : TypeAssignment :=
  ⟨assignment.name, assignment.type.erased⟩

namespace TypeModule

/-- The module without the ids of its shaped nodes. -/
def erased (module : TypeModule) : TypeModule :=
  { module with types := module.types.map TypeAssignment.erased }

/-- The ids of the shaped nodes, type by type in declaration order. -/
def postIds (module : TypeModule) : List ConstraintId :=
  module.types.flatMap (·.type.postIds)

theorem numberTypes_fills (types : List TypeAssignment) (numbering : Numbering) :
    Fills (List.map TypeAssignment.erased) (List.flatMap (·.type.postIds)) numbering types
      (numberTypes numbering types) := by
  induction types generalizing numbering with
  | nil => exact ⟨rfl, rfl⟩
  | cons assignment rest ih =>
      have first := assignment.type.number_fills numbering
      have following := ih (assignment.type.number numbering).2
      constructor
      · simp [numberTypes, TypeAssignment.erased, first.bare, following.bare]
      · simp only [List.flatMap_cons, Numbering.fill_append, first.filled, following.filled,
          numberTypes]

theorem types_determined {types others : List TypeAssignment}
    (bare : types.map TypeAssignment.erased = others.map TypeAssignment.erased)
    (same : types.flatMap (·.type.postIds) = others.flatMap (·.type.postIds)) : types = others := by
  have bareTypes : (types.map (·.type)).map TypeNode.erased =
      (others.map (·.type)).map TypeNode.erased := by
    simpa [TypeAssignment.erased, Function.comp_def] using congrArg (List.map (·.type)) bare
  have parts := TypeNode.parts_determined (types.map (·.type)) (fun part _ => part.determined)
    (others.map (·.type)) [] [] bareTypes (by simpa [List.flatMap_map] using same)
  apply eq_of_maps ?_ bare parts.1
  rintro ⟨_, _⟩ ⟨_, _⟩ around type
  simp_all [TypeAssignment.erased]

end TypeModule

end Asn1Constraints
