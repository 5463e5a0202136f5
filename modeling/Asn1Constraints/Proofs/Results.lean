import Mathlib

/-!
Steps that may fail, taken one after another. What comes of them is told by what
comes of each: all succeed and give their results in order, or one of them is
what the whole fails with.
-/

namespace Asn1Constraints

theorem bind_ok_iff {ε α β : Type} {first : Except ε α} {next : α → Except ε β}
    {result : β} : (first >>= next) = .ok result ↔
      ∃ value, first = .ok value ∧ next value = .ok result := by
  cases first with
  | error error => exact ⟨nofun, fun ⟨_, fails, _⟩ => nomatch fails⟩
  | ok value =>
      refine ⟨fun same => ⟨value, rfl, same⟩, ?_⟩
      rintro ⟨_, found, same⟩
      cases found
      exact same

theorem map_ok_iff {ε α β : Type} {first : Except ε α} {make : α → β} {result : β} :
    first.map make = .ok result ↔ ∃ value, first = .ok value ∧ make value = result := by
  cases first <;> simp [Except.map]

theorem mapM_ok_forall₂ {ε α β : Type} {step : α → Except ε β} {items : List α} {results : List β}
    (done : items.mapM step = .ok results) :
    List.Forall₂ (fun item result => step item = .ok result) items results := by
  induction items generalizing results with
  | nil =>
      cases done
      exact .nil
  | cons item rest ih =>
      rw [List.mapM_cons] at done
      obtain ⟨first, own, done⟩ := bind_ok_iff.mp done
      obtain ⟨others, following, same⟩ := bind_ok_iff.mp done
      cases same
      exact .cons own (ih following)

theorem exists_of_forall₂ {α β : Type} {related : α → β → Prop} {items : List α}
    {results : List β} (paired : List.Forall₂ related items results) {result : β}
    (member : result ∈ results) : ∃ item ∈ items, related item result := by
  induction paired with
  | nil => cases member
  | cons own _ ih =>
      rcases List.mem_cons.mp member with rfl | later
      · exact ⟨_, List.mem_cons_self, own⟩
      · obtain ⟨item, inside, made⟩ := ih later
        exact ⟨item, List.mem_cons_of_mem _ inside, made⟩

theorem mapM_error {ε α β : Type} {step : α → Except ε β} {items : List α} {error : ε}
    (failed : items.mapM step = .error error) : ∃ item ∈ items, step item = .error error := by
  induction items with
  | nil => cases failed
  | cons item rest ih =>
      rw [List.mapM_cons] at failed
      cases own : step item with
      | error first =>
          rw [own] at failed
          cases failed
          exact ⟨item, List.mem_cons_self, own⟩
      | ok result =>
          rw [own] at failed
          cases others : rest.mapM step with
          | error later =>
              rw [others] at failed
              cases failed
              obtain ⟨failing, member, stopped⟩ := ih others
              exact ⟨failing, List.mem_cons_of_mem item member, stopped⟩
          | ok results =>
              rw [others] at failed
              cases failed

theorem mapM_ok {ε α β : Type} {step : α → Except ε β} (items : List α)
    (each : ∀ item ∈ items, ∃ result, step item = .ok result) :
    ∃ results, items.mapM step = .ok results := by
  cases done : items.mapM step with
  | ok results => exact ⟨results, rfl⟩
  | error error =>
      obtain ⟨item, member, failed⟩ := mapM_error done
      obtain ⟨result, own⟩ := each item member
      cases failed.symm.trans own

theorem mapM_eq {ε α β : Type} {step : α → Except ε β} {make : α → β} (items : List α)
    (each : ∀ item ∈ items, step item = .ok (make item)) :
    items.mapM step = .ok (items.map make) := by
  induction items with
  | nil => rfl
  | cons item rest ih =>
      obtain ⟨own, others⟩ := List.forall_mem_cons.mp each
      rw [List.mapM_cons, own, ih others]
      rfl

theorem mapM_congr {ε α β : Type} {one other : α → Except ε β} (items : List α)
    (same : ∀ item ∈ items, one item = other item) : items.mapM one = items.mapM other := by
  induction items with
  | nil => rfl
  | cons item rest ih =>
      obtain ⟨own, others⟩ := List.forall_mem_cons.mp same
      rw [List.mapM_cons, List.mapM_cons, own, ih others]

end Asn1Constraints
