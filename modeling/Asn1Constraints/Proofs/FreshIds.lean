import Asn1Constraints.TypeModel.Numbering
import Mathlib

/-!
The ids an allocator gives out. Past its next candidate it knows exactly the ids
that were taken from the start, so what it gives out is the next of 1, 6, 11, …
that is free. Each candidate passed over is a taken id that is met no more, and
that bounds how far the search can go.
-/

namespace Asn1Constraints

/-- One of 1, 6, 11, … that is no taken id. -/
def IsFree (taken : Finset ConstraintId) (number : Nat) : Prop :=
  number % 5 = 1 ∧ ∀ id ∈ taken, id.toNat ≠ number

instance (taken : Finset ConstraintId) : DecidablePred (IsFree taken) :=
  fun number => inferInstanceAs (Decidable (number % 5 = 1 ∧ ∀ id ∈ taken, id.toNat ≠ number))

/-- The free number with `turn` free ones below it, as an id. -/
noncomputable def freeId (taken : Finset ConstraintId) (turn : Nat) : ConstraintId :=
  UInt32.ofNat (Nat.nth (IsFree taken) turn)

/-- The taken ids that a search from `next` on can still meet. -/
def ahead (taken : Finset ConstraintId) (next : ConstraintId) : Finset ConstraintId :=
  taken.filter (next ≤ ·)

namespace IdAllocator

/-- The numbers that an allocation adds the stride to, from `next` on: those it
passes over and the one it gives out. -/
def stridesFrom (used : List ConstraintId) : Nat → ConstraintId → List ConstraintId
  | 0, next => [next]
  | budget + 1, next =>
    if used.contains next then next :: stridesFrom used budget (next + idStride) else [next]

def strides (allocator : IdAllocator) : List ConstraintId :=
  stridesFrom allocator.used allocator.used.length allocator.next

theorem stridesFrom_search (used : List ConstraintId) (budget : Nat) (next : ConstraintId) :
    (stridesFrom used budget next).head? = some next ∧
      (stridesFrom used budget next).IsChain (fun id following => following = id + idStride) ∧
      (stridesFrom used budget next).getLast? = some (firstUnused used budget next) := by
  induction budget generalizing next with
  | zero => exact ⟨rfl, List.isChain_singleton _, rfl⟩
  | succ budget ih =>
      unfold stridesFrom firstUnused
      by_cases isUsed : used.contains next
      · obtain ⟨head, chain, last⟩ := ih (next + idStride)
        obtain ⟨rest, begins⟩ := List.head?_eq_some_iff.mp head
        rw [if_pos isUsed, if_pos isUsed, begins]
        rw [begins] at chain last
        exact ⟨rfl, List.isChain_cons_cons.mpr ⟨rfl, chain⟩, by rwa [List.getLast?_cons_cons]⟩
      · rw [if_neg isUsed, if_neg isUsed]
        exact ⟨rfl, List.isChain_singleton _, rfl⟩

/-- They begin with the next candidate, each leads to the one behind it, and the
last is the id that is given out. -/
theorem strides_search (allocator : IdAllocator) :
    allocator.strides.head? = some allocator.next ∧
      allocator.strides.IsChain (fun id following => following = id + idStride) ∧
      allocator.strides.getLast? = some allocator.allocate.1 :=
  stridesFrom_search allocator.used allocator.used.length allocator.next

/-- The allocator after some allocations. -/
def after (allocator : IdAllocator) (count : Nat) : IdAllocator :=
  (fun allocator => allocator.allocate.2)^[count] allocator

end IdAllocator

section

variable {taken : Finset ConstraintId}

theorem isFree_iff {id : ConstraintId} (aligned : id.toNat % 5 = 1) :
    IsFree taken id.toNat ↔ id ∉ taken := by
  simp only [IsFree, aligned, true_and, ne_eq, UInt32.toNat_inj]
  exact ⟨fun apart member => apart id member rfl,
    fun absent other member same => absent (same ▸ member)⟩

theorem infinite_free (taken : Finset ConstraintId) : (Set.ofPred (IsFree taken)).Infinite := by
  apply Set.infinite_of_forall_exists_gt
  intro number
  refine ⟨1 + 5 * (number + 2 ^ 32), ⟨by omega, fun id _ => ?_⟩, by omega⟩
  have bound := id.toNat_lt
  omega

/-- Among five numbers that begin with one of 1, 6, 11, … no other is free. -/
theorem count_free_stride {number : Nat} (aligned : number % 5 = 1) :
    Nat.count (IsFree taken) (number + 5) =
      Nat.count (IsFree taken) number + if IsFree taken number then 1 else 0 := by
  have between : ∀ gap, 0 < gap → gap < 5 → ¬ IsFree taken (number + gap) := by
    intro gap positive small free
    have := free.1
    omega
  simp only [Nat.count_succ, between 1 (by omega) (by omega), between 2 (by omega) (by omega),
    between 3 (by omega) (by omega), between 4 (by omega) (by omega), if_false, add_zero]

theorem stride_toNat {id : ConstraintId} (small : id.toNat + 5 < 2 ^ 32) :
    (id + idStride).toNat = id.toNat + 5 := by
  rw [UInt32.toNat_add, show idStride.toNat = 5 from rfl, Nat.mod_eq_of_lt small]

theorem ahead_mono {next later : ConstraintId} (le : next ≤ later) :
    (ahead taken later).card ≤ (ahead taken next).card := by
  apply Finset.card_le_card
  intro id member
  obtain ⟨isTaken, further⟩ := Finset.mem_filter.mp member
  exact Finset.mem_filter.mpr ⟨isTaken, UInt32.le_trans le further⟩

theorem le_stride {next : ConstraintId} (small : next.toNat + 5 < 2 ^ 32) :
    next ≤ next + idStride := by
  rw [UInt32.le_iff_toNat_le, stride_toNat small]
  omega

/-- A taken id that is passed over is met no more. -/
theorem ahead_pass {next : ConstraintId} (small : next.toNat + 5 < 2 ^ 32) (member : next ∈ taken) :
    (ahead taken (next + idStride)).card < (ahead taken next).card := by
  apply Finset.card_lt_card
  rw [Finset.ssubset_iff_of_subset]
  · refine ⟨next, Finset.mem_filter.mpr ⟨member, UInt32.le_refl next⟩, fun again => ?_⟩
    have further := UInt32.le_iff_toNat_le.mp (Finset.mem_filter.mp again).2
    rw [stride_toNat small] at further
    omega
  · intro id further
    obtain ⟨isTaken, le⟩ := Finset.mem_filter.mp further
    exact Finset.mem_filter.mpr ⟨isTaken, UInt32.le_trans (le_stride small) le⟩

/-- The first free number from `next` on, as a search among ids finds it. -/
structure Finds (taken : Finset ConstraintId) (next found : ConstraintId) : Prop where
  le : next ≤ found
  aligned : found.toNat % 5 = 1
  fresh : found ∉ taken
  first : Nat.count (IsFree taken) found.toNat = Nat.count (IsFree taken) next.toNat
  reach : found.toNat + 5 * (ahead taken found).card ≤ next.toNat + 5 * (ahead taken next).card

/-- What a search may rely on: the candidate is one of 1, 6, 11, …, the ids in use
from there on are the taken ones, and passing over all of these stays in range. -/
structure Searchable (taken : Finset ConstraintId) (used : List ConstraintId) (budget : Nat)
    (next : ConstraintId) : Prop where
  aligned : next.toNat % 5 = 1
  known : ∀ id, next ≤ id → (id ∈ used ↔ id ∈ taken)
  enough : (ahead taken next).card ≤ budget
  room : next.toNat + 5 * (ahead taken next).card + 5 < 2 ^ 32

namespace Searchable

variable {used : List ConstraintId} {budget : Nat} {next : ConstraintId}

theorem small (searchable : Searchable taken used budget next) : next.toNat + 5 < 2 ^ 32 := by
  have := searchable.room
  omega

theorem taken_of_used (searchable : Searchable taken used budget next) (isUsed : next ∈ used) :
    next ∈ taken :=
  (searchable.known next (UInt32.le_refl next)).mp isUsed

theorem pass (searchable : Searchable taken used (budget + 1) next) (isUsed : next ∈ used) :
    Searchable taken used budget (next + idStride) := by
  have small := searchable.small
  have fewer := ahead_pass small (searchable.taken_of_used isUsed)
  have room := searchable.room
  have enough := searchable.enough
  refine ⟨?_, ?_, ?_, ?_⟩
  · rw [stride_toNat small, Nat.add_mod_right]
    exact searchable.aligned
  · intro id further
    exact searchable.known id (UInt32.le_trans (le_stride small) further)
  · omega
  · rw [stride_toNat small]
    omega

theorem found_here (searchable : Searchable taken used budget next) (fresh : next ∉ taken) :
    Finds taken next next :=
  ⟨UInt32.le_refl next, searchable.aligned, fresh, rfl, le_refl _⟩

theorem finds (searchable : Searchable taken used budget next) :
    Finds taken next (firstUnused used budget next) := by
  induction budget generalizing next with
  | zero =>
      -- Without any budget left there is no taken id ahead either.
      apply searchable.found_here
      intro isTaken
      have none : ahead taken next = ∅ := Finset.card_eq_zero.mp (Nat.le_zero.mp searchable.enough)
      exact Finset.notMem_empty next (none ▸ Finset.mem_filter.mpr ⟨isTaken, UInt32.le_refl next⟩)
  | succ budget ih =>
      unfold firstUnused
      by_cases isUsed : next ∈ used
      · -- One taken id less is ahead, so the budget is enough for the rest.
        rw [if_pos (List.contains_iff_mem.mpr isUsed)]
        have small := searchable.small
        have isTaken := searchable.taken_of_used isUsed
        have fewer := ahead_pass small isTaken
        have later := ih (searchable.pass isUsed)
        have reach := later.reach
        rw [stride_toNat small] at reach
        have le := UInt32.le_trans (le_stride small) later.le
        refine ⟨le, later.aligned, later.fresh, ?_, by omega⟩
        rw [later.first, stride_toNat small, count_free_stride searchable.aligned, if_neg, add_zero]
        rw [isFree_iff searchable.aligned]
        exact not_not.mpr isTaken
      · rw [if_neg (by simpa using isUsed)]
        exact searchable.found_here fun isTaken =>
          isUsed ((searchable.known next (UInt32.le_refl next)).mpr isTaken)

theorem strides_small (searchable : Searchable taken used budget next) :
    ∀ id ∈ IdAllocator.stridesFrom used budget next, id.toNat + 5 < 2 ^ 32 := by
  induction budget generalizing next with
  | zero => simpa [IdAllocator.stridesFrom] using searchable.small
  | succ budget ih =>
      unfold IdAllocator.stridesFrom
      by_cases isUsed : next ∈ used
      · rw [if_pos (List.contains_iff_mem.mpr isUsed)]
        exact List.forall_mem_cons.mpr ⟨searchable.small, ih (searchable.pass isUsed)⟩
      · rw [if_neg (by simpa using isUsed)]
        simpa using searchable.small

end Searchable

/-- The allocator has given out the first `given` free numbers. -/
structure IdAllocator.Stands (taken : Finset ConstraintId) (given : Nat)
    (allocator : IdAllocator) : Prop where
  aligned : allocator.next.toNat % 5 = 1
  below : Nat.count (IsFree taken) allocator.next.toNat = given
  known : ∀ id, allocator.next ≤ id → (id ∈ allocator.used ↔ id ∈ taken)
  enough : taken.card ≤ allocator.used.length
  reach : allocator.next.toNat + 5 * (ahead taken allocator.next).card ≤
    1 + 5 * (given + taken.card)

namespace IdAllocator.Stands

variable {given : Nat} {allocator : IdAllocator} (stands : allocator.Stands taken given)
  (room : taken.card + given + 1 < 858993459)

include stands room

theorem searchable :
    Searchable taken allocator.used allocator.used.length allocator.next := by
  have reach := stands.reach
  refine ⟨stands.aligned, stands.known, ?_, by omega⟩
  exact (Finset.card_filter_le _ _).trans stands.enough

theorem allocate_eq : allocator.allocate.1 = freeId taken given ∧
    (freeId taken given).toNat = Nat.nth (IsFree taken) given := by
  have finds : Finds taken allocator.next allocator.allocate.1 := (stands.searchable room).finds
  have number : Nat.nth (IsFree taken) given = allocator.allocate.1.toNat := by
    rw [← stands.below, ← finds.first]
    exact Nat.nth_count ((isFree_iff finds.aligned).mpr finds.fresh)
  rw [freeId, number, UInt32.ofNat_toNat]
  exact ⟨rfl, rfl⟩

theorem allocate_stands : allocator.allocate.2.Stands taken (given + 1) := by
  have finds : Finds taken allocator.next allocator.allocate.1 := (stands.searchable room).finds
  have reach := finds.reach
  have bound := stands.reach
  have small : allocator.allocate.1.toNat + 5 < 2 ^ 32 := by omega
  have next : allocator.allocate.2.next = allocator.allocate.1 + idStride := rfl
  have free := (isFree_iff finds.aligned).mpr finds.fresh
  -- The next search starts a stride further on, where the id just given is not met again.
  refine ⟨?_, ?_, fun id further => ?_, ?_, ?_⟩
  · rw [next, stride_toNat small, Nat.add_mod_right]
    exact finds.aligned
  · rw [next, stride_toNat small, count_free_stride finds.aligned, if_pos free, finds.first,
      stands.below]
  · have known := stands.known id
      (UInt32.le_trans finds.le (UInt32.le_trans (le_stride small) further))
    have apart : id ≠ allocator.allocate.1 := by
      rintro rfl
      have := UInt32.le_iff_toNat_le.mp further
      rw [next, stride_toNat small] at this
      omega
    rw [← known]
    exact List.mem_cons.trans (or_iff_right apart)
  · exact stands.enough.trans (Nat.le_succ _)
  · have fewer : (ahead taken (allocator.allocate.1 + idStride)).card ≤
        (ahead taken allocator.allocate.1).card := ahead_mono (le_stride small)
    rw [next, stride_toNat small]
    omega

end IdAllocator.Stands

/-- What fits among the ids is free as an id. -/
theorem freeId_fresh {turn : Nat}
    (exact : (freeId taken turn).toNat = Nat.nth (IsFree taken) turn) :
    freeId taken turn ≠ 0 ∧ freeId taken turn ∉ taken := by
  have free : IsFree taken (freeId taken turn).toNat :=
    exact ▸ Nat.nth_mem_of_infinite (infinite_free taken) turn
  refine ⟨fun zero => ?_, (isFree_iff free.1).mp free⟩
  have aligned := free.1
  rw [zero] at aligned
  cases aligned

theorem freeId_lt {turn later : Nat}
    (exact : (freeId taken turn).toNat = Nat.nth (IsFree taken) turn)
    (laterExact : (freeId taken later).toNat = Nat.nth (IsFree taken) later)
    (before : turn < later) : freeId taken turn < freeId taken later := by
  rw [UInt32.lt_iff_toNat_lt, exact, laterExact]
  exact Nat.nth_strictMono (infinite_free taken) before

end

end Asn1Constraints
