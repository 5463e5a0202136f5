import Asn1Constraints.Proofs.FreshIds
import Asn1Constraints.Proofs.NodeChecks
import Asn1Constraints.Proofs.PostOrder
import Mathlib

/-!
Numbering a module. The nodes without an id, parts before wholes and types in
declaration order, get the free numbers one after the other; nothing else
changes. What is numbered once stays as it is, and types that are added behind
the others do not touch the ids of these.
-/

namespace Asn1Constraints

/-- Zeros replaced in order by what is given for the first turn, the next, and so on. -/
def fillWith (given : Nat → ConstraintId) : Nat → List ConstraintId → List ConstraintId
  | _, [] => []
  | turn, id :: rest =>
    if id = 0 then given turn :: fillWith given (turn + 1) rest
    else id :: fillWith given turn rest

theorem IdAllocator.after_succ (allocator : IdAllocator) (count : Nat) :
    allocator.after (count + 1) = allocator.allocate.2.after count := rfl

theorem IdAllocator.Stands.after {taken : Finset ConstraintId} {given : Nat}
    {allocator : IdAllocator} (stands : allocator.Stands taken given) (count : Nat)
    (room : taken.card + given + count < 858993459) :
    (allocator.after count).Stands taken (given + count) := by
  induction count generalizing allocator given with
  | zero => exact stands
  | succ count ih =>
      rw [IdAllocator.after_succ, show given + (count + 1) = given + 1 + count by omega]
      exact ih (stands.allocate_stands (by omega)) (by omega)

namespace Numbering

theorem fill_eq {taken : Finset ConstraintId} {given : Nat} (ids : List ConstraintId)
    (numbering : Numbering) (stands : numbering.allocator.Stands taken given)
    (room : taken.card + given + ids.count 0 < 858993459) :
    numbering.fill ids = (fillWith (freeId taken) given ids,
      ⟨numbering.allocator.after (ids.count 0), numbering.assigned + ids.count 0⟩) := by
  induction ids generalizing numbering given with
  | nil => rfl
  | cons id rest ih =>
      -- Only an id that is not set takes a turn.
      by_cases unset : id = 0
      · subst unset
        rw [List.count_cons_self] at room ⊢
        obtain ⟨fresh, _⟩ := stands.allocate_eq (by omega)
        have following := ih ⟨numbering.allocator.allocate.2, numbering.assigned + 1⟩
          (stands.allocate_stands (by omega)) (by omega)
        simp only [fill, idFor, if_true, following, fresh, fillWith, IdAllocator.after_succ]
        rw [Nat.add_right_comm, Nat.add_assoc]
      · rw [List.count_cons_of_ne unset] at room ⊢
        have following := ih numbering stands room
        simp only [fill, idFor, if_neg unset, following, fillWith]

theorem fill_full (ids : List ConstraintId) (full : 0 ∉ ids) (numbering : Numbering) :
    numbering.fill ids = (ids, numbering) := by
  induction ids with
  | nil => rfl
  | cons id rest ih =>
      obtain ⟨own, others⟩ := List.ne_and_not_mem_of_not_mem_cons full
      simp only [fill, idFor, if_neg own.symm, ih others]

end Numbering

theorem zero_not_mem_fillWith {given : Nat → ConstraintId} (turn : Nat) (ids : List ConstraintId)
    (real : ∀ other < turn + ids.count 0, given other ≠ 0) :
    0 ∉ fillWith given turn ids := by
  induction ids generalizing turn with
  | nil => exact List.not_mem_nil
  | cons id rest ih =>
      by_cases unset : id = 0
      · subst unset
        rw [List.count_cons_self] at real
        simp only [fillWith, if_true, List.mem_cons, not_or]
        exact ⟨(real turn (by omega)).symm,
          ih (turn + 1) fun other before => real other (by omega)⟩
      · rw [List.count_cons_of_ne unset] at real
        simp only [fillWith, if_neg unset, List.mem_cons, not_or]
        exact ⟨Ne.symm unset, ih turn real⟩

namespace TypeNode

theorem componentIds_flatMap (components : List (Component TypeNode)) :
    componentIds components = (components.map (·.type)).flatMap presentIds := by
  induction components with
  | nil => rfl
  | cons component rest ih => simp [componentIds, ih]

theorem alternativeIds_flatMap (alternatives : List (Alternative TypeNode)) :
    alternativeIds alternatives = (alternatives.map (·.type)).flatMap presentIds := by
  induction alternatives with
  | nil => rfl
  | cons alternative rest ih => simp [alternativeIds, ih]

theorem presentIds_eq_ids (node : TypeNode) : node.presentIds = node.ids := by
  induction node using partsInduction with
  | reference id target =>
      by_cases none : id = 0 <;>
        simp [presentIds, ownIds, ids, nodes_reference, TypeNode.id, none]
  | shaped id shape ih =>
      rw [ids_shaped, presentIds, ownIds]
      congr 1
      have parts : partIds shape = shape.parts.flatMap presentIds := by
        cases shape <;> simp [partIds, Shape.parts, componentIds_flatMap, alternativeIds_flatMap]
      rw [parts]
      exact List.flatMap_congr ih

end TypeNode

namespace TypeModule

/-- The ids that are present anywhere in the module. -/
def takenIds (module : TypeModule) : Finset ConstraintId :=
  ((module.nodes.map (·.id)).filter (· ≠ 0)).toFinset

/-- How many nodes of the module are to be numbered. -/
def unnumbered (module : TypeModule) : Nat := module.postIds.count 0

theorem presentIds_eq (module : TypeModule) :
    module.presentIds = (module.nodes.map (·.id)).filter (· ≠ 0) := by
  rw [nodes, List.map_flatMap, List.filter_flatMap, presentIds]
  exact List.flatMap_congr fun assignment _ => assignment.type.presentIds_eq_ids

theorem idAllocator_stands (module : TypeModule) :
    module.idAllocator.Stands module.takenIds 0 := by
  have used : module.idAllocator.used = (module.nodes.map (·.id)).filter (· ≠ 0) :=
    module.presentIds_eq
  have one : module.idAllocator.next.toNat = 1 := rfl
  refine ⟨rfl, ?_, fun id _ => ?_, ?_, ?_⟩
  · rw [one]
    simp [Nat.count_succ, IsFree]
  · rw [used, takenIds, List.mem_toFinset]
  · rw [used]
    exact List.toFinset_card_le _
  · have part := Finset.card_filter_le module.takenIds (module.idAllocator.next ≤ ·)
    rw [one, ahead]
    omega

theorem numberTypes_append (types further : List TypeAssignment) (numbering : Numbering) :
    numberTypes numbering (types ++ further) =
      ((numberTypes numbering types).1 ++
          (numberTypes (numberTypes numbering types).2 further).1,
        (numberTypes (numberTypes numbering types).2 further).2) := by
  induction types generalizing numbering with
  | nil => rfl
  | cons assignment rest ih => simp [numberTypes, ih]

/-- Types without ids leave the allocator as it is, and are numbered last. -/
theorem assignIds_extended (module : TypeModule) (further : List TypeAssignment)
    (bare : ∀ assignment ∈ further, ∀ node ∈ assignment.type.nodes, node.id = 0) :
    ∃ rest, { module with types := module.types ++ further }.assignIds.1.types =
      module.assignIds.1.types ++ rest := by
  have nothing : further.flatMap (·.type.presentIds) = [] := by
    rw [List.flatMap_eq_nil_iff]
    intro assignment member
    rw [TypeNode.presentIds_eq_ids, TypeNode.ids, List.filter_eq_nil_iff, List.forall_mem_map]
    simpa using bare assignment member
  have same : { module with types := module.types ++ further }.idAllocator =
      module.idAllocator := by
    simp only [idAllocator, presentIds, List.flatMap_append, nothing, List.append_nil]
  simp only [assignIds, same, numberTypes_append]
  exact ⟨_, rfl⟩

/-- Only ids of shaped nodes change. -/
theorem assignIds_erased (module : TypeModule) : module.assignIds.1.erased = module.erased := by
  simp only [erased, assignIds, (numberTypes_fills module.types ⟨module.idAllocator, 0⟩).bare]

/-- Nothing is left to number. -/
theorem assignIds_full (module : TypeModule) (full : 0 ∉ module.postIds) :
    module.assignIds = (module, 0) := by
  obtain ⟨bare, filled⟩ := numberTypes_fills module.types ⟨module.idAllocator, 0⟩
  have kept := Numbering.fill_full _ full ⟨module.idAllocator, 0⟩
  obtain ⟨ids, numbering⟩ := Prod.mk.inj (filled.symm.trans kept)
  simp only [assignIds, types_determined bare ids, numbering]

/-- Numbering has come from the first module to the second. -/
structure NumberedInTurn (module numbered : TypeModule) : Prop where
  /-- Apart from the ids of shaped nodes it is the same module. -/
  bare : numbered.erased = module.erased
  /-- Ids stay where they are, and the nodes without one get the free numbers in turn. -/
  ids : numbered.postIds = fillWith (freeId module.takenIds) 0 module.postIds
  exact : ∀ turn < module.unnumbered,
    (freeId module.takenIds turn).toNat = Nat.nth (IsFree module.takenIds) turn
  fresh : ∀ turn < module.unnumbered,
    freeId module.takenIds turn ≠ 0 ∧ freeId module.takenIds turn ∉ module.takenIds
  ascending : ((List.range module.unnumbered).map (freeId module.takenIds)).Pairwise (· < ·)
  /-- These are the allocations that are made, one for each node without an id. -/
  allocations : (numberTypes ⟨module.idAllocator, 0⟩ module.types).2 =
    ⟨module.idAllocator.after module.unnumbered, module.unnumbered⟩
  /-- No addition of the stride in any of them leaves the range of ids. -/
  bounded : ∀ turn < module.unnumbered, ∀ id ∈ (module.idAllocator.after turn).strides,
    id.toNat + idStride.toNat < 2 ^ 32
  again : numbered.assignIds = (numbered, 0)
  extended : ∀ further : List TypeAssignment,
    (∀ assignment ∈ further, ∀ node ∈ assignment.type.nodes, node.id = 0) →
      ∃ rest, { module with types := module.types ++ further }.assignIds.1.types =
        numbered.types ++ rest

section

variable (module : TypeModule) (room : module.takenIds.card + module.unnumbered < 858993459)

include room

theorem allocator_stands (turn : Nat) (before : turn < module.unnumbered) :
    (module.idAllocator.after turn).Stands module.takenIds turn := by
  have stands := module.idAllocator_stands.after turn (by omega)
  rwa [Nat.zero_add] at stands

theorem freeId_exact (turn : Nat) (before : turn < module.unnumbered) :
    (freeId module.takenIds turn).toNat = Nat.nth (IsFree module.takenIds) turn :=
  ((module.allocator_stands room turn before).allocate_eq (by omega)).2

theorem freeId_ne_zero :
    ∀ turn < 0 + module.postIds.count 0, freeId module.takenIds turn ≠ 0 := by
  intro turn before
  rw [Nat.zero_add] at before
  exact (freeId_fresh (module.freeId_exact room turn before)).1

theorem numberTypes_filled :
    (numberTypes ⟨module.idAllocator, 0⟩ module.types).1.flatMap (·.type.postIds) =
        fillWith (freeId module.takenIds) 0 module.postIds ∧
      (numberTypes ⟨module.idAllocator, 0⟩ module.types).2 =
        ⟨module.idAllocator.after module.unnumbered, module.unnumbered⟩ := by
  have filled := (numberTypes_fills module.types ⟨module.idAllocator, 0⟩).filled
  have spelled := Numbering.fill_eq module.postIds ⟨module.idAllocator, 0⟩
    module.idAllocator_stands (by simpa [unnumbered] using room)
  obtain ⟨ids, numbering⟩ := Prod.mk.inj (filled.symm.trans spelled)
  exact ⟨ids, by rw [numbering, Nat.zero_add, unnumbered]⟩

theorem assignIds_postIds :
    module.assignIds.1.postIds = fillWith (freeId module.takenIds) 0 module.postIds :=
  (module.numberTypes_filled room).1

theorem assignIds_unset : 0 ∉ module.assignIds.1.postIds := by
  rw [module.assignIds_postIds room]
  exact zero_not_mem_fillWith 0 module.postIds (module.freeId_ne_zero room)

theorem freeIds_ascending :
    ((List.range module.unnumbered).map (freeId module.takenIds)).Pairwise (· < ·) := by
  have exact := module.freeId_exact room
  rw [List.pairwise_map]
  refine List.pairwise_lt_range.imp_of_mem fun {turn later} inside laterInside before => ?_
  exact freeId_lt (exact turn (List.mem_range.mp inside))
    (exact later (List.mem_range.mp laterInside)) before

/-- Numbering is exact as long as the free numbers it needs fit among the ids. -/
theorem assignIds_exact :
    ∃ numbered, module.assignIds = (numbered, module.unnumbered) ∧
      module.NumberedInTurn numbered := by
  obtain ⟨ids, allocations⟩ := module.numberTypes_filled room
  have exact := module.freeId_exact room
  refine ⟨module.assignIds.1, ?_, ?_⟩
  · simp only [assignIds, allocations]
  · refine ⟨module.assignIds_erased, ids, exact, ?_, module.freeIds_ascending room, allocations, ?_,
      module.assignIds.1.assignIds_full (module.assignIds_unset room), module.assignIds_extended⟩
    · intro turn before
      exact freeId_fresh (exact turn before)
    · intro turn before
      have stands := module.allocator_stands room turn before
      exact (stands.searchable (by omega)).strides_small

end

/-- A form with a preset id in the way, on a reference of all nodes, and another behind. -/
def forms : TypeModule :=
  ⟨modelVersion, "Forms",
    [⟨"Form", .shaped 0 (.sequence [⟨"page", false, .shaped 0 (.integer ⟨1, 9⟩)⟩,
        ⟨"seal", true, .reference 6 "Seal"⟩, ⟨"note", true, .shaped 0 (.ia5String ⟨0, 9⟩)⟩])⟩,
      ⟨"Seal", .shaped 11 .null⟩]⟩

theorem forms_numbered :
    forms.takenIds.card + forms.unnumbered < 858993459 ∧
      ∃ numbered, forms.assignIds = (numbered, forms.unnumbered) ∧
        forms.NumberedInTurn numbered :=
  ⟨by decide, assignIds_exact forms (by decide)⟩

end TypeModule

end Asn1Constraints
