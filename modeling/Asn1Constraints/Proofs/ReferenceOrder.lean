import Asn1Constraints.Proofs.Names
import Asn1Constraints.TypeModel.ReferenceGraph
import Mathlib

/-!
The schedule that takes names one by one once all they refer to has been taken.
What a name still waits for is a function of the names taken so far, and that
is the invariant; a schedule that comes to rest has taken everything exactly if
the graph has no cycle.
-/

namespace Asn1Constraints

open Relation

namespace ReferenceGraph

variable (graph : ReferenceGraph)

def names : List String := graph.users.map (·.1)

/-- `user` refers to `used`. -/
def Edge (used user : String) : Prop := ∃ users, (used, users) ∈ graph.users ∧ user ∈ users

/-- The name lies on a cycle, or something it refers to does. -/
def Entangled (name : String) : Prop :=
  ∃ looping, TransGen graph.Edge looping looping ∧ ReflTransGen graph.Edge looping name

/-- Names are ascending, and users are names, each listed once. -/
structure Sound : Prop where
  ascending : graph.names.Pairwise (· < ·)
  once : ∀ entry ∈ graph.users, entry.2.Nodup
  closed : ∀ entry ∈ graph.users, ∀ user ∈ entry.2, user ∈ graph.names

/-- How many of the names that `name` refers to are not among those taken. -/
def waitsFor (taken : List String) (name : String) : Nat :=
  graph.users.countP fun entry => entry.2.contains name && !taken.contains entry.1

variable {graph}

theorem Sound.unique (sound : graph.Sound) : graph.names.Nodup :=
  NameSet.nodup_of_ascending sound.ascending

theorem edge_named {used user : String} (edge : graph.Edge used user) : used ∈ graph.names := by
  obtain ⟨users, entry, _⟩ := edge
  exact List.mem_map_of_mem entry

theorem waitsFor_eq_zero_iff (taken : List String) (name : String) :
    graph.waitsFor taken name = 0 ↔ ∀ used, graph.Edge used name → used ∈ taken := by
  simp only [waitsFor, List.countP_eq_zero, Edge]
  constructor
  · rintro settled used ⟨users, member, user⟩
    simpa [user] using settled (used, users) member
  · intro settled entry member
    by_cases user : name ∈ entry.2
    · simpa [user] using settled entry.1 ⟨entry.2, member, user⟩
    · simp [user]

/-- Taking a name relieves its users, and nobody else. -/
theorem waitsFor_take (sound : graph.Sound) (name : String) (users : List String)
    (entry : (name, users) ∈ graph.users) (taken : List String) (fresh : name ∉ taken)
    (other : String) :
    graph.waitsFor taken other =
      graph.waitsFor (name :: taken) other + if other ∈ users then 1 else 0 := by
  obtain ⟨before, after, split⟩ := List.append_of_mem entry
  have unique := sound.unique
  rw [names, split, List.map_append, List.map_cons] at unique
  obtain ⟨_, rest, apart⟩ := List.nodup_append'.mp unique
  have notBefore : name ∉ before.map (·.1) := fun member => apart member List.mem_cons_self
  have notAfter : name ∉ after.map (·.1) := (List.nodup_cons.mp rest).1
  -- The name has one entry, and all entries around it count as before.
  have elsewhere : ∀ entries : List (String × List String), name ∉ entries.map (·.1) →
      entries.countP (fun entry => entry.2.contains other && !taken.contains entry.1) =
        entries.countP fun entry =>
          entry.2.contains other && !(name :: taken).contains entry.1 := by
    intro entries absent
    apply List.countP_congr
    intro entry member
    have different : entry.1 ≠ name := fun same => absent (same ▸ List.mem_map_of_mem member)
    simp [different]
  simp only [waitsFor, split, List.countP_append, List.countP_cons,
    elsewhere before notBefore, elsewhere after notAfter]
  by_cases user : other ∈ users
  · simp [user, fresh]
    omega
  · simp [user]

end ReferenceGraph

namespace Schedule

open ReferenceGraph

theorem release_taken (schedule : Schedule) (name : String) :
    (schedule.release name).taken = schedule.taken := by
  unfold release
  split <;> rfl

theorem release_waiting (schedule : Schedule) (unique : (schedule.waiting.map (·.1)).Nodup)
    (name : String) :
    (schedule.release name).waiting = schedule.waiting.map fun entry =>
      if entry.1 = name then (entry.1, entry.2 - 1) else entry := by
  unfold release
  split
  · rename_i unknown
    have absent := (lookup_eq_none_iff_absent schedule.waiting name).mp unknown
    have kept : ∀ entry ∈ schedule.waiting,
        (if entry.1 = name then (entry.1, entry.2 - 1) else entry) = entry := by
      intro entry member
      have different : entry.1 ≠ name := fun same => absent (same ▸ List.mem_map_of_mem member)
      simp [different]
    rw [List.map_congr_left kept, List.map_id']
  -- A name waits once, so the count found is the count of its only entry.
  · rename_i count found
    apply List.map_congr_left
    intro entry member
    by_cases same : entry.1 = name
    · have value := lookup_of_mem unique member
      rw [same, found] at value
      cases value
      simp [same]
    · simp [same]

theorem mem_release_waiting (schedule : Schedule) (unique : (schedule.waiting.map (·.1)).Nodup)
    {name other : String} (different : other ≠ name) (count : Nat) :
    (other, count) ∈ (schedule.release name).waiting ↔ (other, count) ∈ schedule.waiting := by
  rw [release_waiting schedule unique, List.mem_map]
  constructor
  · rintro ⟨entry, member, same⟩
    by_cases hit : entry.1 = name
    · rw [if_pos hit] at same
      cases same
      exact absurd hit different
    · rw [if_neg hit] at same
      exact same ▸ member
  · exact fun member => ⟨(other, count), member, if_neg different⟩

theorem release_ready (schedule : Schedule) (unique : (schedule.waiting.map (·.1)).Nodup)
    (name other : String) :
    other ∈ (schedule.release name).ready ↔ other ∈ schedule.ready ∨
      (other = name ∧ ∃ count, (name, count) ∈ schedule.waiting ∧ count - 1 = 0) := by
  unfold release
  split
  · rename_i unknown
    have absent := (lookup_eq_none_iff_absent schedule.waiting name).mp unknown
    have nowhere : ∀ count, (name, count) ∉ schedule.waiting :=
      fun count member => absent (List.mem_map_of_mem member)
    simp [nowhere]
  · rename_i count found
    have only : ∀ other, (name, other) ∈ schedule.waiting ↔ other = count := by
      intro other
      constructor
      · intro member
        have value := lookup_of_mem unique member
        rw [found] at value
        cases value
        rfl
      · rintro rfl
        exact mem_of_lookup found
    by_cases last : count - 1 = 0
    · simp [only, last, NameSet.mem_insert, or_comm]
    · simp [only, last]

theorem release_ascending (schedule : Schedule) (ascending : schedule.ready.Pairwise (· < ·))
    (name : String) : (schedule.release name).ready.Pairwise (· < ·) := by
  unfold release
  split
  · exact ascending
  · split
    · exact NameSet.insert_ascending name schedule.ready ascending
    · exact ascending

theorem keys_lowered (waiting : List (String × Nat)) (among : String → Prop)
    [DecidablePred among] :
    (waiting.map fun entry => if among entry.1 then (entry.1, entry.2 - 1) else entry).map (·.1) =
      waiting.map (·.1) := by
  rw [List.map_map]
  apply List.map_congr_left
  intro entry _
  simp only [Function.comp_apply]
  split <;> rfl

theorem foldl_release_taken (users : List String) (schedule : Schedule) :
    (users.foldl release schedule).taken = schedule.taken := by
  induction users generalizing schedule with
  | nil => rfl
  | cons user rest ih => rw [List.foldl_cons, ih, release_taken]

/-- Releasing several names, each once. -/
theorem foldl_release (users : List String) (once : users.Nodup) (schedule : Schedule)
    (unique : (schedule.waiting.map (·.1)).Nodup)
    (ascending : schedule.ready.Pairwise (· < ·)) :
    (users.foldl release schedule).waiting = (schedule.waiting.map fun entry =>
        if entry.1 ∈ users then (entry.1, entry.2 - 1) else entry) ∧
      (users.foldl release schedule).ready.Pairwise (· < ·) ∧
      ∀ other, other ∈ (users.foldl release schedule).ready ↔ other ∈ schedule.ready ∨
        (other ∈ users ∧ ∃ count, (other, count) ∈ schedule.waiting ∧ count - 1 = 0) := by
  induction users generalizing schedule with
  | nil => refine ⟨?_, ascending, ?_⟩ <;> simp
  | cons user rest ih =>
      obtain ⟨fresh, restOnce⟩ := List.nodup_cons.mp once
      have waiting := release_waiting schedule unique user
      have keys : (schedule.release user).waiting.map (·.1) = schedule.waiting.map (·.1) :=
        waiting ▸ keys_lowered schedule.waiting (· = user)
      obtain ⟨counts, sorted, members⟩ := ih restOnce (schedule.release user)
        (keys ▸ unique) (release_ascending schedule ascending user)
      -- This user is not among the rest, so its count is lowered once.
      rw [List.foldl_cons]
      refine ⟨?_, sorted, fun other => ?_⟩
      · rw [counts, waiting, List.map_map]
        apply List.map_congr_left
        intro entry _
        by_cases same : entry.1 = user
        · simp [same, fresh]
        · simp [same]
      · rw [members, release_ready schedule unique, List.mem_cons]
        by_cases same : other = user
        · subst other
          simp [fresh]
        · simp [same, mem_release_waiting schedule unique same]

/-- What holds of every schedule on the way. -/
structure Valid (graph : ReferenceGraph) (schedule : Schedule) : Prop where
  waiting : schedule.waiting =
    graph.users.map fun entry => (entry.1, graph.waitsFor schedule.taken entry.1)
  ready : ∀ name, name ∈ schedule.ready ↔
    name ∈ graph.names ∧ name ∉ schedule.taken ∧ graph.waitsFor schedule.taken name = 0
  ascending : schedule.ready.Pairwise (· < ·)
  unique : schedule.taken.Nodup
  named : ∀ name ∈ schedule.taken, name ∈ graph.names
  /-- What a name refers to was taken before it. -/
  settled : ∀ later name earlier, schedule.taken = later ++ name :: earlier →
    ∀ used, graph.Edge used name → used ∈ earlier

variable {graph : ReferenceGraph}

theorem start_valid (sound : graph.Sound) : Valid graph graph.start := by
  have counts : ∀ name, graph.usedCount name = graph.waitsFor [] name := by
    simp [usedCount, waitsFor]
  refine ⟨?_, fun name => ?_, ?_, List.nodup_nil, by simp [start], by simp [start]⟩
  · simp [start, counts]
  · simp [start, counts, names]
  · have part : graph.start.ready.Sublist graph.names := by
      have filtered := (List.filter_sublist (p := fun entry : String × Nat => entry.2 = 0)
        (l := graph.start.waiting)).map (·.1)
      simpa [start, names, Function.comp_def] using filtered
    exact sound.ascending.sublist part

theorem waiting_keys (schedule : Schedule) (valid : Valid graph schedule) :
    schedule.waiting.map (·.1) = graph.names := by
  rw [valid.waiting, List.map_map]
  rfl

theorem mem_waiting_iff (schedule : Schedule) (valid : Valid graph schedule) (name : String)
    (inNames : name ∈ graph.names) (count : Nat) :
    (name, count) ∈ schedule.waiting ↔ count = graph.waitsFor schedule.taken name := by
  obtain ⟨entry, member, rfl⟩ := List.mem_map.mp inNames
  simp only [valid.waiting, List.mem_map, Prod.mk.injEq]
  constructor
  · rintro ⟨other, _, same, rfl⟩
    rw [same]
  · rintro rfl
    exact ⟨entry, member, rfl, rfl⟩

theorem taken_before (schedule : Schedule) (valid : Valid graph schedule) (name used : String)
    (member : name ∈ schedule.taken) (edge : graph.Edge used name) : used ∈ schedule.taken := by
  obtain ⟨later, earlier, split⟩ := List.append_of_mem member
  rw [split]
  exact List.mem_append_right _ (List.mem_cons_of_mem _
    (valid.settled later name earlier split used edge))

/-- What waits for nothing once a ready name is taken: the names that were ready
beside it, and its users that waited for it alone. -/
theorem free_after_take (sound : graph.Sound) (schedule : Schedule) (valid : Valid graph schedule)
    (name : String) (rest : List String) (head : schedule.ready = name :: rest)
    (users : List String) (entry : (name, users) ∈ graph.users) (other : String) :
    (other ∈ rest ∨ other ∈ users ∧ ∃ count, (other, count) ∈ schedule.waiting ∧ count - 1 = 0) ↔
      other ∈ graph.names ∧ other ∉ name :: schedule.taken ∧
        graph.waitsFor (name :: schedule.taken) other = 0 := by
  have sorted := valid.ascending
  rw [head] at sorted
  have nameNotRest : name ∉ rest :=
    fun member => lt_irrefl name ((List.pairwise_cons.mp sorted).1 name member)
  obtain ⟨_, fresh, free⟩ := (valid.ready name).mp (head ▸ List.mem_cons_self)
  have settledNow := (waitsFor_eq_zero_iff schedule.taken name).mp free
  have bound := waitsFor_take sound name users entry schedule.taken fresh other
  constructor
  · rintro (member | ⟨user, count, inWaiting, last⟩)
    · obtain ⟨named, untaken, zero⟩ :=
        (valid.ready other).mp (head ▸ List.mem_cons_of_mem _ member)
      have different : other ≠ name := fun same => nameNotRest (same ▸ member)
      exact ⟨named, by simp [different, untaken], by omega⟩
    · have edge : graph.Edge name other := ⟨users, entry, user⟩
      have named := sound.closed _ entry other user
      have value := (mem_waiting_iff schedule valid other named count).mp inWaiting
      rw [if_pos user] at bound
      -- A name that refers to itself never waits for nothing.
      have different : other ≠ name := fun same => fresh (settledNow name (same ▸ edge))
      have untaken : other ∉ schedule.taken := fun member =>
        fresh (taken_before schedule valid other name member edge)
      exact ⟨named, by simp [different, untaken], by omega⟩
  · rintro ⟨named, untaken, zero⟩
    obtain ⟨different, old⟩ := List.ne_and_not_mem_of_not_mem_cons untaken
    by_cases user : other ∈ users
    · rw [if_pos user] at bound
      exact Or.inr ⟨user, _, (mem_waiting_iff schedule valid other named _).mpr rfl, by omega⟩
    · rw [if_neg user, zero] at bound
      have member := (valid.ready other).mpr ⟨named, old, bound⟩
      rw [head] at member
      exact Or.inl ((List.mem_cons.mp member).resolve_left different)

/-- Taking the first ready name. -/
theorem take_valid (sound : graph.Sound) (schedule : Schedule) (valid : Valid graph schedule)
    (name : String) (rest : List String) (head : schedule.ready = name :: rest)
    (users : List String) (entry : (name, users) ∈ graph.users) :
    Valid graph (users.foldl release
      { schedule with ready := rest, taken := name :: schedule.taken }) := by
  have sorted := valid.ascending
  rw [head] at sorted
  obtain ⟨inNames, fresh, free⟩ := (valid.ready name).mp (head ▸ List.mem_cons_self)
  have settledNow := (waitsFor_eq_zero_iff schedule.taken name).mp free
  have relieved := waitsFor_take sound name users entry schedule.taken fresh
  have taken := foldl_release_taken users
    { schedule with ready := rest, taken := name :: schedule.taken }
  obtain ⟨waiting, ascending, ready⟩ := foldl_release users (sound.once _ entry)
    { schedule with ready := rest, taken := name :: schedule.taken }
    (waiting_keys schedule valid ▸ sound.unique) (List.pairwise_cons.mp sorted).2
  dsimp only at taken waiting ready
  refine ⟨?_, fun other => ?_, ascending, ?_, ?_, ?_⟩
  · rw [waiting, taken, valid.waiting, List.map_map]
    apply List.map_congr_left
    intro user _
    by_cases hit : user.1 ∈ users <;> simp [hit, relieved user.1]
  · rw [ready, taken]
    exact free_after_take sound schedule valid name rest head users entry other
  · rw [taken]
    exact List.nodup_cons.mpr ⟨fresh, valid.unique⟩
  · rw [taken]
    exact List.forall_mem_cons.mpr ⟨inNames, valid.named⟩
  · rw [taken]
    intro later other earlier split used edge
    -- Either the name just taken, which waited for nothing, or one taken before.
    cases later with
    | nil =>
        obtain ⟨rfl, rfl⟩ := List.cons.inj split
        exact settledNow used edge
    | cons _ later =>
        exact valid.settled later other earlier (List.cons.inj split).2 used edge

theorem step_valid (sound : graph.Sound) (schedule : Schedule) (valid : Valid graph schedule) :
    Valid graph (schedule.step graph) := by
  unfold step
  split
  · exact valid
  · rename_i name rest head
    obtain ⟨inNames, _, _⟩ := (valid.ready name).mp (head ▸ List.mem_cons_self)
    obtain ⟨⟨found, users⟩, entry, rfl⟩ := List.mem_map.mp inNames
    have uses : graph.users.lookup found = some users := lookup_of_mem sound.unique entry
    simpa [uses] using take_valid sound schedule valid found rest head users entry

theorem run_valid (sound : graph.Sound) (rounds : Nat) (schedule : Schedule)
    (valid : Valid graph schedule) : Valid graph (run graph rounds schedule) := by
  induction rounds generalizing schedule with
  | zero => exact valid
  | succ rounds ih => exact ih _ (step_valid sound schedule valid)

theorem step_idle (schedule : Schedule) (idle : schedule.ready = []) :
    schedule.step graph = schedule := by
  simp [step, idle]

theorem step_taken_length (schedule : Schedule) (busy : schedule.ready ≠ []) :
    (schedule.step graph).taken.length = schedule.taken.length + 1 := by
  unfold step
  split
  · contradiction
  · simp [foldl_release_taken]

theorem run_idle (rounds : Nat) (schedule : Schedule) (idle : schedule.ready = []) :
    run graph rounds schedule = schedule := by
  induction rounds with
  | zero => rfl
  | succ rounds ih => rw [run, step_idle schedule idle, ih]

/-- A schedule comes to rest within as many rounds as there are names left. -/
theorem run_comes_to_rest (sound : graph.Sound) (rounds : Nat) (schedule : Schedule)
    (valid : Valid graph schedule)
    (enough : graph.names.length ≤ schedule.taken.length + rounds) :
    (run graph rounds schedule).ready = [] := by
  induction rounds generalizing schedule with
  | zero =>
      -- No rounds are left, so all names are taken and none of them is ready.
      have all := (valid.unique.subperm valid.named).perm_of_length_le enough
      apply List.eq_nil_iff_forall_not_mem.mpr
      intro name member
      obtain ⟨named, untaken, _⟩ := (valid.ready name).mp member
      exact untaken (all.mem_iff.mpr named)
  | succ rounds ih =>
      by_cases idle : schedule.ready = []
      · rw [run_idle (rounds + 1) schedule idle, idle]
      · have grown : (schedule.step graph).taken.length = _ := step_taken_length schedule idle
        exact ih _ (step_valid sound schedule valid) (by omega)

end Schedule

namespace ReferenceGraph

variable {graph : ReferenceGraph}

theorem schedule_valid (sound : graph.Sound) : graph.schedule.Valid graph :=
  Schedule.run_valid sound _ _ (Schedule.start_valid sound)

theorem schedule_idle (sound : graph.Sound) : graph.schedule.ready = [] :=
  Schedule.run_comes_to_rest sound _ _ (Schedule.start_valid sound) (by simp [names, start])

/-- No name that is taken lies on a cycle. -/
theorem taken_acyclic {schedule : Schedule} (valid : schedule.Valid graph) (name : String)
    (member : name ∈ schedule.taken) : ¬ TransGen graph.Edge name name := by
  -- Along a path, what is used is always taken before its user.
  have before : ∀ user, TransGen graph.Edge name user →
      ∀ later earlier, schedule.taken = later ++ user :: earlier → name ∈ earlier := by
    intro user path
    induction path with
    | single edge =>
        intro later earlier split
        exact valid.settled later _ earlier split name edge
    | @tail between user _ edge ih =>
        intro later earlier split
        obtain ⟨middle, oldest, rest⟩ :=
          List.append_of_mem (valid.settled later user earlier split between edge)
        have inOldest := ih (later ++ user :: middle) oldest (by simp [split, rest])
        rw [rest]
        exact List.mem_append_right _ (List.mem_cons_of_mem _ inOldest)
  intro cycle
  obtain ⟨later, earlier, split⟩ := List.append_of_mem member
  have unique := valid.unique
  rw [split] at unique
  exact (List.nodup_cons.mp unique.of_append_right).1 (before name cycle later earlier split)

/-- A schedule at rest has taken every name that no cycle holds up: a least such
name left would wait for nothing. -/
theorem taken_of_clear {schedule : Schedule} (valid : schedule.Valid graph)
    (idle : schedule.ready = []) :
    ∀ name ∈ graph.names, ¬ graph.Entangled name → name ∈ schedule.taken := by
  -- Off the cycles it is a strict order what is used by what, and it can be climbed.
  have : IsStrictOrder String
      (fun used user => TransGen graph.Edge used user ∧ ¬ graph.Entangled user) :=
    { irrefl := fun name cycle => cycle.2 ⟨name, cycle.1, .refl⟩
      trans := fun _ _ _ first second => ⟨first.1.trans second.1, second.2⟩ }
  have founded : {name | name ∈ graph.names}.WellFoundedOn
      (fun used user => TransGen graph.Edge used user ∧ ¬ graph.Entangled user) :=
    (List.finite_toSet graph.names).wellFoundedOn
  intro name inNames
  apply founded.induction inNames
  intro user named below clear
  by_contra untaken
  have settled : graph.waitsFor schedule.taken user = 0 := by
    rw [waitsFor_eq_zero_iff]
    intro used edge
    refine below used (edge_named edge) ⟨TransGen.single edge, clear⟩ ?_
    rintro ⟨looping, cycle, path⟩
    exact clear ⟨looping, cycle, path.tail edge⟩
  have member := (valid.ready user).mpr ⟨named, untaken, settled⟩
  rw [idle] at member
  exact List.not_mem_nil member

theorem ordered_iff_acyclic (sound : graph.Sound) :
    (∃ names, graph.dependencyOrder = .ordered names) ↔
      ∀ name, ¬ TransGen graph.Edge name name := by
  have valid := schedule_valid sound
  have complete : graph.schedule.taken.length = graph.users.length ↔
      ∀ name ∈ graph.names, name ∈ graph.schedule.taken := by
    have part := valid.unique.subperm valid.named
    constructor
    · intro same
      have all := part.perm_of_length_le (by simp [names, same])
      exact fun name => all.mem_iff.mpr
    · intro all
      have whole := sound.unique.subperm all
      simpa [names] using (whole.antisymm part).length_eq.symm
  constructor
  · rintro ⟨names, order⟩ name cycle
    obtain ⟨_, edge, _⟩ := TransGen.head'_iff.mp cycle
    have all : graph.schedule.taken.length = graph.users.length := by
      by_contra left
      simp [dependencyOrder, left] at order
    exact taken_acyclic valid name (complete.mp all name (edge_named edge)) cycle
  · intro acyclic
    have all : ∀ name ∈ graph.names, name ∈ graph.schedule.taken := fun name named =>
      taken_of_clear valid (schedule_idle sound) name named
        fun ⟨looping, cycle, _⟩ => acyclic looping cycle
    exact ⟨_, if_pos (complete.mpr all)⟩

end ReferenceGraph

end Asn1Constraints
