import Asn1Constraints.Proofs.Nodes
import Mathlib

/-!
Chains of references. A reference leads to the first type declared by its name,
and the chain goes on until it comes to a shape or to a name that nothing
declares, if it ever does. A chain that ends visits no name twice, so the budget
for resolving a node tells the three cases apart in every module. One node less
would not do.
-/

namespace Asn1Constraints.TypeModule

open Relation

variable {module : TypeModule}

/-- The node is a reference, and the next one is the first type of its name. -/
inductive Hops (module : TypeModule) : TypeNode → TypeNode → Prop where
  | target {id before assignment after} :
      module.types = before ++ assignment :: after →
      assignment.name ∉ before.map TypeAssignment.name →
      Hops module (.reference id assignment.name) assignment.type

/-- References lead from node to node for ever. -/
def Endless (module : TypeModule) (node : TypeNode) : Prop :=
  ∃ chain : ℕ → TypeNode, chain 0 = node ∧ ∀ place, module.Hops (chain place) (chain (place + 1))

/-- The chain ends after that many references, and this is what is met there. -/
inductive EndsAfter (module : TypeModule) : ℕ → TypeNode → Except Error Resolved → Prop where
  | shape {id shape} : EndsAfter module 0 (.shaped id shape) (.ok ⟨id, shape⟩)
  | unknown {id target} : target ∉ module.types.map TypeAssignment.name →
      EndsAfter module 0 (.reference id target) (.error (.unknownType module.name target))
  | hop {count node next answer} : module.Hops node next → EndsAfter module count next answer →
      EndsAfter module (count + 1) node answer

theorem find?_eq_none_iff_absent (target : String) :
    module.find? target = none ↔ target ∉ module.types.map TypeAssignment.name := by
  simp [find?]

theorem hops_iff (node next : TypeNode) :
    module.Hops node next ↔ ∃ id target assignment, node = .reference id target ∧
      module.find? target = some assignment ∧ next = assignment.type := by
  constructor
  · rintro ⟨split, first⟩
    refine ⟨_, _, _, rfl, ?_, rfl⟩
    exact List.find?_eq_some_iff_append.mpr ⟨by simp, _, _, split, by simpa using first⟩
  · rintro ⟨id, target, assignment, rfl, found, rfl⟩
    obtain ⟨_, before, after, split, first⟩ := List.find?_eq_some_iff_append.mp found
    obtain ⟨_, rfl⟩ := declared_of_find? found
    exact .target split (by simpa using first)

/-- At each node the chain either ends or goes on. -/
theorem ends_or_hops (node : TypeNode) :
    (∃ answer, module.EndsAfter 0 node answer) ∨ ∃ next, module.Hops node next := by
  cases node with
  | shaped id shape => exact .inl ⟨_, .shape⟩
  | reference id target =>
      cases found : module.find? target with
      | none => exact .inl ⟨_, .unknown ((find?_eq_none_iff_absent target).mp found)⟩
      | some assignment =>
          exact .inr ⟨_, (hops_iff _ _).mpr ⟨id, target, assignment, rfl, found, rfl⟩⟩

namespace Hops

variable {node next : TypeNode}

theorem unique {other : TypeNode} (hops : module.Hops node next) (also : module.Hops node other) :
    next = other := by
  obtain ⟨id, target, assignment, rfl, found, rfl⟩ := (hops_iff _ _).mp hops
  obtain ⟨_, _, second, same, again, rfl⟩ := (hops_iff _ _).mp also
  obtain ⟨rfl, rfl⟩ := TypeNode.reference.inj same
  rw [Option.some.inj (found.symm.trans again)]

theorem not_end {answer : Except Error Resolved} (hops : module.Hops node next) :
    ¬ module.EndsAfter 0 node answer := by
  obtain ⟨id, target, assignment, rfl, found, rfl⟩ := (hops_iff _ _).mp hops
  rintro (_ | undeclared)
  rw [(find?_eq_none_iff_absent target).mpr undeclared] at found
  cases found

theorem resolveWithin_succ_eq (hops : module.Hops node next) (budget : ℕ) :
    module.resolveWithin (budget + 1) node = module.resolveWithin budget next := by
  obtain ⟨id, target, assignment, rfl, found, rfl⟩ := (hops_iff _ _).mp hops
  simp only [resolveWithin, require, found]

end Hops

namespace EndsAfter

variable {count : ℕ} {node : TypeNode} {answer : Except Error Resolved}

/-- A budget for the nodes of the chain gives what is met at its end, and a
smaller one runs out. -/
theorem resolveWithin_eq (ends : module.EndsAfter count node answer) (budget : ℕ) :
    module.resolveWithin budget node =
      if count < budget then answer else .error (.malformed (.endlessReferences module.name)) := by
  induction ends generalizing budget with
  | shape => cases budget <;> rfl
  | @unknown id target undeclared =>
      cases budget with
      | zero => rfl
      | succ budget =>
          simp [resolveWithin, require, (find?_eq_none_iff_absent target).mpr undeclared]
  | hop hops _ ih =>
      cases budget with
      | zero => rfl
      | succ budget => simp [hops.resolveWithin_succ_eq, ih]

theorem unique (ends : module.EndsAfter count node answer) {other : ℕ}
    {answer' : Except Error Resolved} (also : module.EndsAfter other node answer') :
    count = other := by
  induction ends generalizing other with
  | shape =>
      rcases also with _ | _ | hops
      · rfl
      · cases hops
  | unknown undeclared =>
      rcases also with _ | _ | hops
      · rfl
      · exact absurd (.unknown undeclared) hops.not_end
  | hop hops _ ih =>
      cases also with
      | shape => cases hops
      | unknown undeclared => exact absurd (.unknown undeclared) hops.not_end
      | hop further ends =>
          obtain rfl := hops.unique further
          rw [ih ends]

/-- The names followed are all different: from one that came back the end would
be nearer than from itself. -/
theorem distinct_names (ends : module.EndsAfter count node answer) :
    ∃ names : List String, names.length = count ∧ names.Nodup ∧
      ∀ name ∈ names, ∃ assignment, module.find? name = some assignment ∧
        ∃ left < count, module.EndsAfter left assignment.type answer := by
  induction ends with
  | shape => exact ⟨[], rfl, .nil, nofun⟩
  | unknown => exact ⟨[], rfl, .nil, nofun⟩
  | @hop count node next answer hops ends ih =>
      obtain ⟨names, counted, unique, onward⟩ := ih
      obtain ⟨id, target, assignment, rfl, found, rfl⟩ := (hops_iff _ _).mp hops
      refine ⟨target :: names, by simp [counted], ?_, ?_⟩
      · refine List.nodup_cons.mpr ⟨fun again => ?_, unique⟩
        -- The same type is met again, and its distance to the end is one number.
        obtain ⟨second, also, left, nearer, rest⟩ := onward target again
        obtain rfl := Option.some.inj (found.symm.trans also)
        exact absurd (rest.unique ends) nearer.ne
      · refine List.forall_mem_cons.mpr ⟨⟨assignment, found, count, by omega, ends⟩, ?_⟩
        intro name member
        obtain ⟨other, declared, left, nearer, rest⟩ := onward name member
        exact ⟨other, declared, left, by omega, rest⟩

theorem count_le (ends : module.EndsAfter count node answer) : count ≤ module.types.length := by
  obtain ⟨names, rfl, unique, onward⟩ := ends.distinct_names
  have declared : names ⊆ module.types.map TypeAssignment.name := by
    intro name member
    obtain ⟨assignment, found, _⟩ := onward name member
    obtain ⟨inside, rfl⟩ := declared_of_find? found
    exact List.mem_map_of_mem inside
  simpa using (unique.subperm declared).length_le

theorem resolve_eq (ends : module.EndsAfter count node answer) : module.resolve node = answer := by
  have enough := ends.count_le
  rw [resolve, ends.resolveWithin_eq, if_pos (by omega)]

end EndsAfter

theorem Endless.resolveWithin_eq {node : TypeNode} (endless : module.Endless node) (budget : ℕ) :
    module.resolveWithin budget node =
      .error (.malformed (.endlessReferences module.name)) := by
  obtain ⟨chain, rfl, hops⟩ := endless
  have anywhere : ∀ place, module.resolveWithin budget (chain place) =
      .error (.malformed (.endlessReferences module.name)) := by
    induction budget with
    | zero => exact fun _ => rfl
    | succ budget ih => exact fun place => ((hops place).resolveWithin_succ_eq budget).trans (ih _)
  exact anywhere 0

theorem ends_of_not_endless {node : TypeNode} (ended : ¬ module.Endless node) :
    ∃ count answer, module.EndsAfter count node answer := by
  have accessible : Acc (Function.swap module.Hops) node :=
    not_not.mp (mt not_acc_iff_exists_descending_chain.mp ended)
  clear ended
  -- There is no endless chain to follow, so the hops themselves carry the induction.
  induction accessible with
  | intro node _ ih =>
      rcases module.ends_or_hops node with ⟨answer, ends⟩ | ⟨next, hops⟩
      · exact ⟨0, answer, ends⟩
      · obtain ⟨count, answer, ends⟩ := ih next hops
        exact ⟨count + 1, answer, .hop hops ends⟩

/-- The end of a chain is the node that is reached and does not lead on. -/
theorem ends_iff_reaches (node : TypeNode) (answer : Except Error Resolved) :
    (∃ count, module.EndsAfter count node answer) ↔
      ∃ last, ReflTransGen module.Hops node last ∧ module.EndsAfter 0 last answer := by
  constructor
  · rintro ⟨count, ends⟩
    induction ends with
    | shape => exact ⟨_, .refl, .shape⟩
    | unknown undeclared => exact ⟨_, .refl, .unknown undeclared⟩
    | hop hops _ ih =>
        obtain ⟨last, reached, ends⟩ := ih
        exact ⟨last, .head hops reached, ends⟩
  · rintro ⟨last, reached, ends⟩
    induction reached using ReflTransGen.head_induction_on with
    | refl => exact ⟨0, ends⟩
    | head hops _ ih =>
        obtain ⟨count, ends⟩ := ih
        exact ⟨count + 1, .hop hops ends⟩

/-- A node either has an end and resolves to what is met there, or has none. -/
theorem ends_or_endless (node : TypeNode) :
    (∃ last, ReflTransGen module.Hops node last ∧ module.EndsAfter 0 last (module.resolve node)) ∨
      module.Endless node ∧
        module.resolve node = .error (.malformed (.endlessReferences module.name)) := by
  by_cases endless : module.Endless node
  · exact .inr ⟨endless, endless.resolveWithin_eq _⟩
  · obtain ⟨count, answer, ends⟩ := ends_of_not_endless endless
    rw [ends.resolve_eq]
    exact .inl ((ends_iff_reaches node answer).mp ⟨count, ends⟩)

theorem resolve_eq_iff_meets (node : TypeNode) {answer : Except Error Resolved}
    (ended : answer ≠ .error (.malformed (.endlessReferences module.name))) :
    module.resolve node = answer ↔
      ∃ last, ReflTransGen module.Hops node last ∧ module.EndsAfter 0 last answer := by
  constructor
  · rintro rfl
    exact (module.ends_or_endless node).resolve_right fun lost => ended lost.2
  · intro met
    obtain ⟨count, whole⟩ := (ends_iff_reaches node answer).mpr met
    exact whole.resolve_eq

theorem resolve_eq_ok_iff (node : TypeNode) (resolved : Resolved) :
    module.resolve node = .ok resolved ↔
      ReflTransGen module.Hops node (.shaped resolved.id resolved.shape) := by
  rw [resolve_eq_iff_meets node (by simp)]
  constructor
  · rintro ⟨_, reached, ⟨⟩⟩
    exact reached
  · exact fun reached => ⟨_, reached, .shape⟩

theorem resolve_eq_unknown_iff (node : TypeNode) (target : String) :
    module.resolve node = .error (.unknownType module.name target) ↔
      target ∉ module.types.map TypeAssignment.name ∧
        ∃ id, ReflTransGen module.Hops node (.reference id target) := by
  rw [resolve_eq_iff_meets node (by simp)]
  constructor
  · rintro ⟨_, reached, _ | undeclared⟩
    exact ⟨undeclared, _, reached⟩
  · rintro ⟨undeclared, id, reached⟩
    exact ⟨_, reached, .unknown undeclared⟩

theorem resolve_eq_endless_iff (node : TypeNode) :
    module.resolve node = .error (.malformed (.endlessReferences module.name)) ↔
      module.Endless node := by
  constructor
  · intro given
    rcases module.ends_or_endless node with ⟨last, _, ends⟩ | ⟨endless, _⟩
    · rw [given] at ends
      cases ends
    · exact endless
  · exact fun endless => endless.resolveWithin_eq _

/-- There is no fourth answer. -/
theorem resolve_cases (node : TypeNode) :
    (∃ resolved, module.resolve node = .ok resolved) ∨
      (∃ target, module.resolve node = .error (.unknownType module.name target)) ∨
      module.resolve node = .error (.malformed (.endlessReferences module.name)) := by
  rcases module.ends_or_endless node with ⟨last, _, ends⟩ | ⟨_, none⟩
  · generalize module.resolve node = answer at ends ⊢
    rcases ends with _ | _
    · exact .inl ⟨_, rfl⟩
    · exact .inr (.inl ⟨_, rfl⟩)
  · exact .inr (.inr none)

/-- A budget beyond that for every type is never used up. -/
theorem resolveWithin_further (node : TypeNode) (further : ℕ) :
    module.resolveWithin (module.types.length + 1 + further) node = module.resolve node := by
  by_cases endless : module.Endless node
  · rw [endless.resolveWithin_eq, resolve, endless.resolveWithin_eq]
  · obtain ⟨count, answer, ends⟩ := ends_of_not_endless endless
    have enough := ends.count_le
    rw [ends.resolve_eq, ends.resolveWithin_eq, if_pos (by omega)]

/-- The node that a reference takes from the budget is not missed. -/
theorem Hops.resolve_eq {node next : TypeNode} (hops : module.Hops node next) :
    module.resolve node = module.resolve next := by
  rw [← resolveWithin_further node 1, hops.resolveWithin_succ_eq, resolve]

theorem resolve_reference {id : ConstraintId} {target : String} {assignment : TypeAssignment}
    (found : module.find? target = some assignment) :
    module.resolve (.reference id target) = module.resolve assignment.type :=
  Hops.resolve_eq ((hops_iff _ _).mpr ⟨id, target, assignment, rfl, found, rfl⟩)

/-! Ladders. Each type refers to the one below it, and the chain from the top
goes through all of them. -/

def rungName (height : ℕ) : String := String.ofList (List.replicate height 'a')

def rung : ℕ → TypeNode
  | 0 => .shaped 0 .null
  | below + 1 => .reference 0 (rungName below)

def ladder (height : ℕ) : TypeModule :=
  ⟨modelVersion, "Ladder", (List.range height).map fun step => ⟨rungName step, rung step⟩⟩

theorem rungName_injective : Function.Injective rungName := by
  intro step other same
  simpa [rungName] using congrArg String.length same

theorem ladder_hops {height step : ℕ} (within : step < height) :
    (ladder height).Hops (rung (step + 1)) (rung step) := by
  have unique : ((ladder height).types.map (·.name)).Nodup := by
    rw [ladder, List.map_map]
    exact List.nodup_range.map rungName_injective
  have declared : ⟨rungName step, rung step⟩ ∈ (ladder height).types :=
    List.mem_map_of_mem (List.mem_range.mpr within)
  exact (hops_iff _ _).mpr ⟨0, rungName step, _, rfl, find?_of_mem unique declared, rfl⟩

theorem ladder_ends {height : ℕ} (step : ℕ) (within : step ≤ height) :
    (ladder height).EndsAfter step (rung step) (.ok ⟨0, .null⟩) := by
  induction step with
  | zero => exact .shape
  | succ step ih => exact .hop (ladder_hops within) (ih (by omega))

/-- With one node less the chain of a ladder is taken for an endless one. -/
theorem ladder_needs_budget (height : ℕ) :
    (ladder height).types.length = height ∧
      (ladder height).resolve (rung height) = .ok ⟨0, .null⟩ ∧
      (ladder height).resolveWithin height (rung height) =
        .error (.malformed (.endlessReferences (ladder height).name)) := by
  have ends := ladder_ends height (le_refl height)
  refine ⟨by simp [ladder], ends.resolve_eq, ?_⟩
  rw [ends.resolveWithin_eq, if_neg (lt_irrefl height)]

/-- Resolving a node tells where its chain of references leads, whatever the
module is like: to a shape, to a name that nothing declares, or on without end.
More budget changes no answer, and for any number of types there is a module in
which less would be too little. -/
theorem resolve_decides_chain (module : TypeModule) (node : TypeNode) :
    (∀ resolved, module.resolve node = .ok resolved ↔
      ReflTransGen module.Hops node (.shaped resolved.id resolved.shape)) ∧
    (∀ target, module.resolve node = .error (.unknownType module.name target) ↔
      target ∉ module.types.map TypeAssignment.name ∧
        ∃ id, ReflTransGen module.Hops node (.reference id target)) ∧
    (module.resolve node = .error (.malformed (.endlessReferences module.name)) ↔
      module.Endless node) ∧
    ((∃ resolved, module.resolve node = .ok resolved) ∨
      (∃ target, module.resolve node = .error (.unknownType module.name target)) ∨
      module.resolve node = .error (.malformed (.endlessReferences module.name))) ∧
    (∀ further, module.resolveWithin (module.types.length + 1 + further) node =
      module.resolve node) ∧
    ∃ other : TypeModule, ∃ start, other.types.length = module.types.length ∧
      (∃ resolved, other.resolve start = .ok resolved) ∧
      other.resolveWithin other.types.length start =
        .error (.malformed (.endlessReferences other.name)) := by
  obtain ⟨counted, reached, short⟩ := ladder_needs_budget module.types.length
  exact ⟨resolve_eq_ok_iff node, resolve_eq_unknown_iff node, resolve_eq_endless_iff node,
    resolve_cases node, resolveWithin_further node,
    ladder module.types.length, rung module.types.length, counted, ⟨_, reached⟩, counted.symm ▸ short⟩

end Asn1Constraints.TypeModule
