import Asn1Constraints.Proofs.ReferenceOrder
import Mathlib

/-!
What a schedule ends with. The names it takes are an arrangement of the graph,
and since the ready names are kept ascending it is the first of all arrangements
in the order of lists: up to any point another one either goes on from the names
taken so far or has already gone on with a larger name. Where no arrangement
exists, the names left are those that a cycle holds up.
-/

namespace Asn1Constraints

open Relation

/-- The points of a graph in a row: each once, and after every point it refers to. -/
structure Arranges (point : String → Prop) (uses : String → String → Prop)
    (names : List String) : Prop where
  once : names.Nodup
  all : ∀ name, name ∈ names ↔ point name
  after : ∀ earlier name later, names = earlier ++ name :: later →
    ∀ used, uses name used → used ∈ earlier

theorem Arranges.perm {point : String → Prop} {uses : String → String → Prop}
    {names other : List String} (first : Arranges point uses names)
    (second : Arranges point uses other) : names.Perm other :=
  (List.perm_ext_iff_of_nodup first.once second.once).mpr fun name =>
    (first.all name).trans (second.all name).symm

/-- The second list goes on from the first one, or has a larger name where they
first differ. -/
def Precedes (names other : List String) : Prop :=
  (∃ tail, other = names ++ tail) ∨
    ∃ common first rest second tail,
      names = common ++ first :: rest ∧ other = common ++ second :: tail ∧ first < second

namespace Precedes

variable {names other : List String}

theorem nothing (other : List String) : Precedes [] other := Or.inl ⟨other, rfl⟩

theorem snoc (precedes : Precedes names other) (name : String)
    (next : ∀ tail, other = names ++ tail → ∃ second rest, tail = second :: rest ∧ name ≤ second) :
    Precedes (names ++ [name]) other := by
  rcases precedes with ⟨tail, same⟩ | ⟨common, first, rest, second, tail, rfl, same, smaller⟩
  · obtain ⟨second, rest, rfl, le⟩ := next tail same
    rcases le.lt_or_eq with smaller | rfl
    · exact Or.inr ⟨names, name, [], second, rest, rfl, same, smaller⟩
    · exact Or.inl ⟨rest, by simp [same]⟩
  · exact Or.inr ⟨common, first, rest ++ [name], second, tail, by simp, same, smaller⟩

theorem lex (precedes : Precedes names other) (even : names.length = other.length) :
    names = other ∨ List.Lex (· < ·) names other := by
  rcases precedes with ⟨tail, rfl⟩ | ⟨common, first, rest, second, tail, rfl, rfl, smaller⟩
  · obtain rfl : tail = [] := by simpa using even
    exact Or.inl (List.append_nil names).symm
  · exact Or.inr (List.Lex.append_left _ (List.Lex.rel smaller) common)

end Precedes

namespace Schedule

open ReferenceGraph

variable {graph : ReferenceGraph}

theorem step_taken (schedule : Schedule) (name : String) (rest : List String)
    (head : schedule.ready = name :: rest) :
    (schedule.step graph).taken = name :: schedule.taken := by
  simp [step, head, foldl_release_taken]

/-- An arrangement that goes on from the names taken goes on with a ready name,
and the first of these is taken next. -/
theorem step_precedes (schedule : Schedule) (valid : Valid graph schedule) (other : List String)
    (arranges : Arranges (· ∈ graph.names) (fun user used => graph.Edge used user) other)
    (precedes : Precedes schedule.taken.reverse other) :
    Precedes (schedule.step graph).taken.reverse other := by
  cases head : schedule.ready with
  | nil => rwa [step_idle schedule head]
  | cons name rest =>
      rw [step_taken schedule name rest head, List.reverse_cons]
      obtain ⟨named, untaken, _⟩ := (valid.ready name).mp (head ▸ List.mem_cons_self)
      apply precedes.snoc name
      -- The name that follows in the other arrangement is ready as well: all it
      -- refers to comes before it, and that is what has been taken.
      intro tail goesOn
      have inTail : name ∈ tail := by
        have inOther := (arranges.all name).mpr named
        rw [goesOn, List.mem_append, List.mem_reverse] at inOther
        exact inOther.resolve_left untaken
      obtain ⟨second, further, rfl⟩ := List.exists_cons_of_ne_nil (List.ne_nil_of_mem inTail)
      refine ⟨second, further, rfl, ?_⟩
      have secondNamed : second ∈ graph.names := (arranges.all second).mp (by simp [goesOn])
      have secondUntaken : second ∉ schedule.taken := by
        have once := arranges.once
        rw [goesOn] at once
        exact fun member =>
          (List.nodup_append'.mp once).2.2 (List.mem_reverse.mpr member) List.mem_cons_self
      have secondFree : graph.waitsFor schedule.taken second = 0 := by
        rw [waitsFor_eq_zero_iff]
        intro used edge
        exact List.mem_reverse.mp (arranges.after _ second further goesOn used edge)
      have ready := (valid.ready second).mpr ⟨secondNamed, secondUntaken, secondFree⟩
      rw [head] at ready
      have ascending := valid.ascending
      rw [head] at ascending
      rcases List.mem_cons.mp ready with same | later
      · exact le_of_eq same.symm
      · exact le_of_lt ((List.pairwise_cons.mp ascending).1 second later)

theorem run_precedes (sound : graph.Sound) (rounds : Nat) (schedule : Schedule)
    (valid : Valid graph schedule) (other : List String)
    (arranges : Arranges (· ∈ graph.names) (fun user used => graph.Edge used user) other)
    (precedes : Precedes schedule.taken.reverse other) :
    Precedes (run graph rounds schedule).taken.reverse other := by
  induction rounds generalizing schedule with
  | zero => exact precedes
  | succ rounds ih =>
      exact ih _ (step_valid sound schedule valid)
        (step_precedes schedule valid other arranges precedes)

/-- Taking the first ready name, every count that is lowered is above zero at
that moment. -/
def Relieves (graph : ReferenceGraph) (schedule : Schedule) : Prop :=
  ∀ name rest users before user after, schedule.ready = name :: rest →
    graph.users.lookup name = some users → users = before ++ user :: after →
    ∃ count, (before.foldl release
      { schedule with ready := rest, taken := name :: schedule.taken }).waiting.lookup user =
        some (count + 1)

theorem relieves_of_valid (sound : graph.Sound) (schedule : Schedule)
    (valid : Valid graph schedule) : Relieves graph schedule := by
  intro name rest users before user after head uses split
  have entry := mem_of_lookup uses
  have userIn : user ∈ users := by simp [split]
  have named := sound.closed _ entry user userIn
  obtain ⟨_, fresh, _⟩ := (valid.ready name).mp (head ▸ List.mem_cons_self)
  -- The user waits for the name at least, and none of those before it is the user.
  have waits : graph.waitsFor schedule.taken user ≠ 0 := by
    rw [Ne, waitsFor_eq_zero_iff]
    exact fun settled => fresh (settled name ⟨users, entry, userIn⟩)
  have once := sound.once _ entry
  simp only at once
  rw [split] at once
  have apart : user ∉ before := fun member =>
    (List.nodup_append'.mp once).2.2 member List.mem_cons_self
  have sorted := valid.ascending
  rw [head] at sorted
  have keys := waiting_keys schedule valid
  obtain ⟨waiting, _⟩ := foldl_release before once.of_append_left
    { schedule with ready := rest, taken := name :: schedule.taken }
    (keys ▸ sound.unique) (List.pairwise_cons.mp sorted).2
  refine ⟨graph.waitsFor schedule.taken user - 1, ?_⟩
  rw [Nat.sub_add_cancel (Nat.pos_of_ne_zero waits), waiting]
  apply lookup_of_mem
  · rw [keys_lowered schedule.waiting (· ∈ before), keys]
    exact sound.unique
  · exact List.mem_map.mpr ⟨_, (mem_waiting_iff schedule valid user named _).mpr rfl,
      if_neg apart⟩

end Schedule

namespace ReferenceGraph

variable {graph : ReferenceGraph} (sound : graph.Sound)

include sound

theorem ordered_arranges {names : List String} (order : graph.dependencyOrder = .ordered names) :
    Arranges (· ∈ graph.names) (fun user used => graph.Edge used user) names := by
  have valid := schedule_valid sound
  by_cases all : graph.schedule.taken.length = graph.users.length
  · obtain rfl : graph.schedule.taken.reverse = names := by
      simpa [dependencyOrder, all] using order
    have whole := (valid.unique.subperm valid.named).perm_of_length_le
      (by simp [ReferenceGraph.names, all])
    refine ⟨List.nodup_reverse.mpr valid.unique, fun name => ?_, ?_⟩
    · rw [List.mem_reverse, whole.mem_iff]
    · intro earlier name later split used edge
      have turned : graph.schedule.taken = later.reverse ++ name :: earlier.reverse := by
        rw [← List.reverse_reverse graph.schedule.taken, split]
        simp
      exact List.mem_reverse.mp (valid.settled _ name _ turned used edge)
  · simp [dependencyOrder, all] at order

/-- No arrangement comes before the one that is found. -/
theorem ordered_least {names : List String} (order : graph.dependencyOrder = .ordered names)
    (other : List String)
    (arranges : Arranges (· ∈ graph.names) (fun user used => graph.Edge used user) other) :
    names = other ∨ List.Lex (· < ·) names other := by
  have even := ((ordered_arranges sound order).perm arranges).length_eq
  have precedes := Schedule.run_precedes sound graph.users.length graph.start
    (Schedule.start_valid sound) other arranges (Precedes.nothing other)
  by_cases all : graph.schedule.taken.length = graph.users.length
  · obtain rfl : graph.schedule.taken.reverse = names := by
      simpa [dependencyOrder, all] using order
    exact Precedes.lex precedes even
  · simp [dependencyOrder, all] at order

/-- At rest, what still waits is what was not taken. -/
theorem waits_iff_entangled (name : String) :
    name ∈ graph.names ∧ graph.waitsFor graph.schedule.taken name ≠ 0 ↔ graph.Entangled name := by
  have valid := schedule_valid sound
  have idle := schedule_idle sound
  constructor
  · rintro ⟨named, waits⟩
    by_contra clear
    have taken := taken_of_clear valid idle name named clear
    apply waits
    rw [waitsFor_eq_zero_iff]
    exact fun used edge => Schedule.taken_before graph.schedule valid name used taken edge
  · rintro ⟨looping, cycle, path⟩
    -- What refers to an untaken name is untaken too, all along the path from the cycle.
    have untaken : name ∉ graph.schedule.taken := by
      induction path with
      | refl => exact fun taken => taken_acyclic valid looping taken cycle
      | tail _ edge ih =>
          exact fun taken => ih (Schedule.taken_before graph.schedule valid _ _ taken edge)
    have named : name ∈ graph.names := by
      rcases path.cases_tail with rfl | ⟨used, _, users, entry, user⟩
      · obtain ⟨_, edge, _⟩ := TransGen.head'_iff.mp cycle
        exact edge_named edge
      · exact sound.closed _ entry name user
    refine ⟨named, fun free => ?_⟩
    have ready := (valid.ready name).mpr ⟨named, untaken, free⟩
    rw [idle] at ready
    exact List.not_mem_nil ready

theorem cyclic_names {names : List String} (order : graph.dependencyOrder = .cyclic names) :
    names.Pairwise (· < ·) ∧ ∀ name, name ∈ names ↔ graph.Entangled name := by
  have valid := schedule_valid sound
  have listed : names =
      graph.names.filter fun name => graph.waitsFor graph.schedule.taken name ≠ 0 := by
    by_cases all : graph.schedule.taken.length = graph.users.length
    · simp [dependencyOrder, all] at order
    · rw [dependencyOrder, if_neg all] at order
      rw [← DependencyOrder.cyclic.inj order, valid.waiting, ReferenceGraph.names,
        List.filter_map, List.filter_map, List.map_map]
      rfl
  subst listed
  refine ⟨sound.ascending.filter _, fun name => ?_⟩
  rw [← waits_iff_entangled sound, List.mem_filter, decide_eq_true_iff]

end ReferenceGraph

end Asn1Constraints
