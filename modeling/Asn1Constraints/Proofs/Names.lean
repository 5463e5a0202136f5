import Asn1Constraints.Text.NameSet
import Mathlib

/-!
Lists of names, ascending sets of names, tables that are looked up by key, and lists
whose items are numbered.
-/

namespace Asn1Constraints

section Tables

variable {Key Entry : Type} [BEq Key] [LawfulBEq Key]

theorem mem_of_lookup {table : List (Key × Entry)} {key : Key} {entry : Entry}
    (found : table.lookup key = some entry) : (key, entry) ∈ table := by
  obtain ⟨before, after, rfl, _⟩ := List.lookup_eq_some_iff.mp found
  simp

theorem lookup_eq_none_iff_absent (table : List (Key × Entry)) (key : Key) :
    table.lookup key = none ↔ key ∉ table.map (·.1) := by
  simp only [List.lookup_eq_none_iff, bne_iff_ne, List.mem_map, not_exists, not_and]
  exact forall₂_congr fun _ _ => ne_comm

theorem lookup_isSome_iff (table : List (Key × Entry)) (key : Key) :
    (table.lookup key).isSome ↔ key ∈ table.map (·.1) := by
  rw [Option.isSome_iff_ne_none, ne_eq, lookup_eq_none_iff_absent, not_not]

theorem lookup_cons_if [DecidableEq Key] (key other : Key) (entry : Entry)
    (table : List (Key × Entry)) :
    ((other, entry) :: table).lookup key =
      if key = other then some entry else table.lookup key := by
  by_cases same : key = other
  · simp [same]
  · have apart : (key == other) = false := by simpa using same
    simp [List.lookup_cons, apart, same]

theorem lookup_of_mem {table : List (Key × Entry)} (unique : (table.map (·.1)).Nodup)
    {key : Key} {entry : Entry} (member : (key, entry) ∈ table) :
    table.lookup key = some entry := by
  cases found : table.lookup key with
  | none =>
      have absent := (lookup_eq_none_iff_absent table key).mp found
      exact absurd (List.mem_map_of_mem member) absent
  | some other =>
      have same := List.inj_on_of_nodup_map unique (mem_of_lookup found) member rfl
      cases same
      rfl

end Tables

theorem zipIdx_ascending {α : Type} (items : List α) (start : ℕ) :
    (items.zipIdx start).Pairwise fun entry other => entry.2 < other.2 := by
  have counted : ((items.zipIdx start).map Prod.snd).Pairwise (· < ·) := by
    rw [List.zipIdx_map_snd]
    exact List.pairwise_lt_range'
  exact List.pairwise_map.mp counted

/-- A fresh name at the front and the same name among those seen exclude the same names. -/
theorem distinct_cons_iff {α : Type} (name : α) (names seen : List α) (fresh : name ∉ seen) :
    (name :: names).Nodup ∧ (name :: names).Disjoint seen ↔
      names.Nodup ∧ names.Disjoint (name :: seen) := by
  simp only [List.nodup_cons, List.disjoint_cons_left, List.disjoint_cons_right]
  tauto

theorem repeatedName?_eq_none_iff (seen names : List String) :
    repeatedName? seen names = none ↔ names.Nodup ∧ names.Disjoint seen := by
  induction names generalizing seen with
  | nil => simp [repeatedName?]
  | cons name rest ih =>
      by_cases known : name ∈ seen
      · simp [repeatedName?, known]
      · rw [distinct_cons_iff name rest seen known, ← ih]
        simp [repeatedName?, known]

namespace NameSet

theorem mem_insert (name other : String) (names : List String) :
    other ∈ insert name names ↔ other = name ∨ other ∈ names := by
  induction names with
  | nil => simp [insert]
  | cons first rest ih =>
      unfold insert
      split
      · simp
      · split
        · rename_i same
          simp [same]
        · simp only [List.mem_cons, ih]
          tauto

theorem insert_ascending (name : String) (names : List String)
    (ascending : names.Pairwise (· < ·)) : (insert name names).Pairwise (· < ·) := by
  induction names with
  | nil => exact List.pairwise_singleton _ _
  | cons first rest ih =>
      obtain ⟨least, tail⟩ := List.pairwise_cons.mp ascending
      unfold insert
      split
      · rename_i smaller
        exact ascending.cons_cons_of_trans smaller
      · split
        · exact ascending
        · rename_i notSmaller different
          refine List.pairwise_cons.mpr ⟨fun other member => ?_, ih tail⟩
          rcases (mem_insert name other rest).mp member with same | later
          · subst other
            exact lt_of_le_of_ne (not_lt.mp notSmaller) (Ne.symm different)
          · exact least other later

/-- Inserting names one by one into a set. -/
theorem foldl_insert (names set : List String) (ascending : set.Pairwise (· < ·)) :
    (names.foldl (fun set name => insert name set) set).Pairwise (· < ·) ∧
      ∀ name, name ∈ names.foldl (fun set name => insert name set) set ↔
        name ∈ set ∨ name ∈ names := by
  induction names generalizing set with
  | nil => simpa using ascending
  | cons first rest ih =>
      obtain ⟨sorted, members⟩ := ih (insert first set) (insert_ascending first set ascending)
      refine ⟨sorted, fun name => ?_⟩
      rw [List.foldl_cons, members, mem_insert, List.mem_cons]
      tauto

theorem ofList_ascending (names : List String) : (ofList names).Pairwise (· < ·) :=
  (foldl_insert names [] List.Pairwise.nil).1

theorem mem_ofList (name : String) (names : List String) : name ∈ ofList names ↔ name ∈ names := by
  have members := (foldl_insert names [] List.Pairwise.nil).2 name
  simpa [ofList] using members

/-- A set is known by its members. -/
theorem ofList_congr {names others : List String} (same : ∀ name, name ∈ names ↔ name ∈ others) :
    ofList names = ofList others := by
  apply (ofList_ascending names).sortedLT.eq_of_mem_iff (ofList_ascending others).sortedLT
  intro name
  rw [mem_ofList, mem_ofList, same]

theorem nodup_of_ascending {names : List String} (ascending : names.Pairwise (· < ·)) :
    names.Nodup :=
  ascending.imp fun smaller => ne_of_lt smaller

end NameSet

end Asn1Constraints
