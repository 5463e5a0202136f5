import Asn1Constraints.Proofs.ExactNumbering
import Asn1Constraints.Proofs.WellFormedModules
import Mathlib

/-!
What numbering can repair. A module without the ids of its shaped nodes still
shows everything that is checked apart from ids, and the ids of its references;
numbering keeps all of this, and adds ids that are new and apart from each
other. So the numbered module is well formed unless something else than a
missing id was wrong.
-/

namespace Asn1Constraints

open Relation

theorem Shape.map_sound {Node Part : Type} (f : Node → Part) (shape : Shape Node) :
    (shape.map f).Sound ↔ shape.Sound := by
  cases shape <;> simp [Sound, map, Function.comp_def]

namespace TypeNode

/-- What a node has to satisfy apart from its id and from the nodes below it. -/
def Fits (module : TypeModule) : TypeNode → Prop
  | .reference _ target => ∃ assignment ∈ module.types, assignment.name = target
  | .shaped _ shape => shape.Sound

theorem erased_nodes (node : TypeNode) : node.erased.nodes = node.nodes.map erased := by
  induction node using partsInduction with
  | reference id target => simp [erased_reference, nodes_reference]
  | shaped id shape ih =>
      have below : (shape.map erased).parts.flatMap nodes =
          (shape.parts.flatMap nodes).map erased := by
        rw [Shape.parts_map, List.flatMap_map, List.map_flatMap]
        exact List.flatMap_congr ih
      rw [erased_shaped, nodes_shaped, nodes_shaped, List.map_cons, erased_shaped, below]

theorem erased_eq_reference_iff (node : TypeNode) (id : ConstraintId) (target : String) :
    node.erased = .reference id target ↔ node = .reference id target := by
  cases node <;> simp [erased_reference, erased_shaped]

theorem erased_fits_iff (module : TypeModule) (node : TypeNode) :
    node.erased.Fits module.erased ↔ node.Fits module := by
  cases node with
  | reference id target =>
      simp [erased_reference, Fits, TypeModule.erased, TypeAssignment.erased]
  | shaped id shape =>
      rw [erased_shaped]
      exact Shape.map_sound erased shape

/-- What erasing takes away are ids of shaped nodes. -/
theorem presentIds_perm (node : TypeNode) :
    node.presentIds.Perm (node.erased.presentIds ++ node.postIds.filter (· ≠ 0)) := by
  simp only [presentIds_eq_ids]
  induction node using partsInduction with
  | reference id target => simp [erased_reference, postIds_reference]
  | shaped id shape ih =>
      have own : [id].filter (· ≠ 0) = if id = 0 then [] else [id] := by
        by_cases unset : id = 0 <;> simp [unset]
      rw [erased_shaped, ids_shaped, ids_shaped, if_pos rfl, List.nil_append, Shape.parts_map,
        List.flatMap_map, postIds_shaped, List.filter_append, List.filter_flatMap, own]
      have parts : (shape.parts.flatMap ids).Perm
          (shape.parts.flatMap (fun part => part.erased.ids) ++
            shape.parts.flatMap fun part => part.postIds.filter (· ≠ 0)) :=
        (List.Perm.flatMap_left _ ih).trans (List.flatMap_append_perm _ _ _).symm
      rw [← List.append_assoc]
      exact (parts.append_left _).trans List.perm_append_comm

theorem id_mem_postIds {node : TypeNode} {id : ConstraintId} {shape : Shape TypeNode}
    (member : TypeNode.shaped id shape ∈ node.nodes) : id ∈ node.postIds := by
  induction node using partsInduction with
  | reference other target => simp [nodes_reference] at member
  | shaped other whole ih =>
      rw [postIds_shaped, List.mem_append, List.mem_singleton, List.mem_flatMap]
      rw [nodes_shaped, List.mem_cons, List.mem_flatMap] at member
      rcases member with same | ⟨part, isPart, deeper⟩
      · exact Or.inr (TypeNode.shaped.inj same).1
      · exact Or.inl ⟨part, isPart, ih part isPart deeper⟩

end TypeNode

/-- Filling adds what is given to the ids that are there. -/
theorem fillWith_perm {given : Nat → ConstraintId} (turn : Nat) (ids : List ConstraintId)
    (real : ∀ other < turn + ids.count 0, given other ≠ 0) :
    ((fillWith given turn ids).filter (· ≠ 0)).Perm
      (ids.filter (· ≠ 0) ++ (List.range' turn (ids.count 0)).map given) := by
  induction ids generalizing turn with
  | nil => simp [fillWith]
  | cons id rest ih =>
      by_cases unset : id = 0
      · subst unset
        rw [List.count_cons_self] at real ⊢
        have following := ih (turn + 1) fun other before => real other (by omega)
        have first := real turn (by omega)
        rw [fillWith, if_pos rfl, List.filter_cons_of_pos (by simpa using first),
          List.filter_cons_of_neg (by simp), List.range'_succ, List.map_cons]
        exact (following.cons (given turn)).trans List.perm_middle.symm
      · rw [List.count_cons_of_ne unset] at real ⊢
        simpa [fillWith, unset] using (ih turn real).cons id

namespace TypeModule

/-- What a module has to satisfy apart from its ids. -/
structure WellShaped (module : TypeModule) : Prop where
  distinctNames : (module.types.map (·.name)).Nodup
  fits : ∀ node ∈ module.nodes, node.Fits module
  acyclic : ∀ name, ¬ TransGen module.Uses name name

/-- References carry no id. -/
def BareReferences (module : TypeModule) : Prop :=
  ∀ id target, TypeNode.reference id target ∈ module.nodes → id = 0

section Erasure

variable (module : TypeModule)

theorem erased_nodes : module.erased.nodes = module.nodes.map TypeNode.erased := by
  simp only [nodes, erased, List.flatMap_map, List.map_flatMap]
  exact List.flatMap_congr fun assignment _ => assignment.type.erased_nodes

theorem reference_mem_erased_iff (id : ConstraintId) (target : String) :
    TypeNode.reference id target ∈ module.erased.nodes ↔
      TypeNode.reference id target ∈ module.nodes := by
  simp [erased_nodes, TypeNode.erased_eq_reference_iff]

theorem erased_uses : module.erased.Uses = module.Uses := by
  funext user used
  simp [Uses, erased, TypeAssignment.erased, TypeNode.erased_nodes,
    TypeNode.erased_eq_reference_iff]

theorem erased_wellShaped_iff : module.erased.WellShaped ↔ module.WellShaped := by
  have names : module.erased.types.map (·.name) = module.types.map (·.name) := by
    simp [erased, TypeAssignment.erased]
  have fits : (∀ node ∈ module.erased.nodes, node.Fits module.erased) ↔
      ∀ node ∈ module.nodes, node.Fits module := by
    simp [erased_nodes, TypeNode.erased_fits_iff]
  constructor
  · rintro ⟨distinct, each, acyclic⟩
    exact ⟨names ▸ distinct, fits.mp each, erased_uses module ▸ acyclic⟩
  · rintro ⟨distinct, each, acyclic⟩
    exact ⟨names.symm ▸ distinct, fits.mpr each, (erased_uses module).symm ▸ acyclic⟩

theorem erased_bareReferences_iff : module.erased.BareReferences ↔ module.BareReferences := by
  simp only [BareReferences, reference_mem_erased_iff]

theorem presentIds_perm :
    module.presentIds.Perm (module.erased.presentIds ++ module.postIds.filter (· ≠ 0)) := by
  simp only [presentIds, erased, postIds, List.flatMap_map, List.filter_flatMap]
  exact (List.Perm.flatMap_left _ fun assignment _ => assignment.type.presentIds_perm).trans
    (List.flatMap_append_perm _ _ _).symm

end Erasure

/-- Where no id is missing, a module is well formed by its shape and its ids. -/
theorem wellFormed_iff_wellShaped {module : TypeModule} (full : 0 ∉ module.postIds) :
    module.WellFormed ↔
      module.WellShaped ∧ module.BareReferences ∧ module.presentIds.Nodup := by
  have set : ∀ id shape, TypeNode.shaped id shape ∈ module.nodes → id ≠ 0 := by
    rintro id shape member rfl
    obtain ⟨assignment, declared, below⟩ := List.mem_flatMap.mp member
    exact full (List.mem_flatMap.mpr ⟨assignment, declared, TypeNode.id_mem_postIds below⟩)
  -- With all ids set, what a node asks of its id is left to the references alone.
  rw [presentIds_eq]
  constructor
  · rintro ⟨names, sound, ids, acyclic⟩
    refine ⟨⟨names, fun node member => ?_, acyclic⟩, fun id target member => ?_, ids⟩
    · cases node with
      | reference => exact (sound _ member).2
      | shaped => exact (sound _ member).2
    · exact (sound _ member).1
  · rintro ⟨⟨names, fits, acyclic⟩, bare, ids⟩
    refine ⟨names, fun node member => ?_, ids, acyclic⟩
    cases node with
    | reference id target => exact ⟨bare id target member, fits _ member⟩
    | shaped id shape => exact ⟨fun unset => absurd unset (set id shape member), fits _ member⟩

section

open scoped List

variable (module : TypeModule) (room : module.takenIds.card + module.unnumbered < 858993459)

include room

/-- Numbering adds the free numbers to the ids that are there. -/
theorem assignIds_presentIds :
    module.assignIds.1.presentIds.Perm
      (module.presentIds ++ (List.range module.unnumbered).map (freeId module.takenIds)) := by
  have filled := fillWith_perm 0 module.postIds (module.freeId_ne_zero room)
  have added := module.assignIds.1.presentIds_perm
  rw [assignIds_erased, module.assignIds_postIds room] at added
  calc module.assignIds.1.presentIds
      ~ module.erased.presentIds ++ (module.postIds.filter (· ≠ 0) ++
          (List.range module.unnumbered).map (freeId module.takenIds)) := by
        rw [List.range_eq_range', unnumbered]
        exact added.trans (filled.append_left _)
    _ ~ module.presentIds ++ (List.range module.unnumbered).map (freeId module.takenIds) := by
        rw [← List.append_assoc]
        exact module.presentIds_perm.symm.append_right _

theorem assignIds_distinct_iff :
    module.assignIds.1.presentIds.Nodup ↔ module.presentIds.Nodup := by
  rw [(module.assignIds_presentIds room).nodup_iff, List.nodup_append']
  have ascending := (module.freeIds_ascending room).imp UInt32.ne_of_lt
  refine ⟨fun ⟨unique, _, _⟩ => unique, fun unique => ⟨unique, ascending, ?_⟩⟩
  intro id present given
  obtain ⟨turn, inside, rfl⟩ := List.mem_map.mp given
  have exact := module.freeId_exact room turn (List.mem_range.mp inside)
  rw [presentIds_eq] at present
  exact (freeId_fresh exact).2 (List.mem_toFinset.mpr present)

/-- Numbering makes a module well formed exactly if nothing but ids was missing. -/
theorem numbered_validate_iff :
    module.assignIds.1.validate = .ok () ↔
      module.WellShaped ∧ module.BareReferences ∧
        ((module.nodes.map (·.id)).filter (· ≠ 0)).Nodup := by
  have full := module.assignIds_unset room
  -- Shape and references are the same before and after, so only the ids are compared.
  calc module.assignIds.1.validate = .ok ()
      ↔ module.assignIds.1.WellFormed := ⟨wellFormed_of_validate, validate_of_wellFormed⟩
    _ ↔ module.assignIds.1.WellShaped ∧ module.assignIds.1.BareReferences ∧
          module.assignIds.1.presentIds.Nodup := wellFormed_iff_wellShaped full
    _ ↔ module.WellShaped ∧ module.BareReferences ∧ module.presentIds.Nodup := by
        rw [← erased_wellShaped_iff, ← erased_bareReferences_iff, assignIds_erased,
          erased_wellShaped_iff, erased_bareReferences_iff, module.assignIds_distinct_iff room]
    _ ↔ _ := by rw [presentIds_eq]

end

/-- A parcel with one id preset, which the numbering of its items comes across. -/
def parcels : TypeModule :=
  ⟨modelVersion, "Parcels",
    [⟨"Parcel", .shaped 0 (.sequence [⟨"weight", false, .shaped 6 (.integer ⟨1, 9⟩)⟩,
        ⟨"items", false, .shaped 0 (.sequenceOf ⟨1, 3⟩ (.reference 0 "Item"))⟩])⟩,
      ⟨"Item", .shaped 0 (.choice [⟨"book", .shaped 0 .null⟩, ⟨"pages", .shaped 0 .boolean⟩])⟩]⟩

theorem parcels_repaired :
    parcels.takenIds.card + parcels.unnumbered < 858993459 ∧
      parcels.assignIds.1.validate = .ok () ∧
        parcels.WellShaped ∧ parcels.BareReferences ∧
          ((parcels.nodes.map (·.id)).filter (· ≠ 0)).Nodup :=
  ⟨by decide, rfl, (numbered_validate_iff parcels (by decide)).mp rfl⟩

end TypeModule

end Asn1Constraints
