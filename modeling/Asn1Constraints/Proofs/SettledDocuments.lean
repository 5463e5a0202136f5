import Asn1Constraints.Proofs.JsonRoundTrip
import Mathlib

/-!
Settled documents. Settling puts the members of every object in ascending order
of their keys, so it changes nothing where they ascend already; the documents
that are written for values are settled from the start.
-/

namespace Asn1Constraints

namespace Json

/-! Members. -/

section

variable {α : Type}

theorem mem_insertMember {key : String} {value : α} {members : List (String × α)}
    {entry : String × α} (member : entry ∈ insertMember key value members) :
    entry = (key, value) ∨ entry ∈ members := by
  induction members with
  | nil => exact .inl (List.mem_singleton.mp member)
  | cons first rest ih =>
      obtain ⟨other, old⟩ := first
      rw [insertMember] at member
      split at member
      · exact List.mem_cons.mp member
      · split at member
        · exact (List.mem_cons.mp member).imp_right (List.mem_cons_of_mem _)
        · rcases List.mem_cons.mp member with rfl | later
          · exact .inr List.mem_cons_self
          · exact (ih later).imp_right (List.mem_cons_of_mem _)

theorem mem_settleMembers {members : List (String × α)} {entry : String × α}
    (member : entry ∈ settleMembers members) : entry ∈ members := by
  have entered : ∀ entry ∈ settleMembers members, entry ∈ members := by
    refine List.foldlRecOn members _ (motive := fun settled => ∀ entry ∈ settled, entry ∈ members)
      nofun ?_
    intro settled before added own entry present
    rcases mem_insertMember present with rfl | earlier
    · exact own
    · exact before entry earlier
  exact entered entry member

/-- Keys in ascending order, each once. -/
def Ascending (members : List (String × α)) : Prop :=
  (members.map (·.1)).Pairwise (· < ·)

theorem insertMember_ascending (key : String) (value : α) (members : List (String × α))
    (ascending : Ascending members) : Ascending (insertMember key value members) := by
  induction members with
  | nil => simp [insertMember, Ascending]
  | cons member rest ih =>
      obtain ⟨other, old⟩ := member
      obtain ⟨least, tail⟩ := List.pairwise_cons.mp ascending
      rw [insertMember]
      split
      · rename_i smaller
        exact ascending.cons_cons_of_trans smaller
      · rename_i notSmaller
        split
        · rename_i same
          subst same
          exact ascending
        · rename_i different
          refine List.pairwise_cons.mpr ⟨fun name member => ?_, ih tail⟩
          obtain ⟨entry, inside, rfl⟩ := List.mem_map.mp member
          rcases mem_insertMember inside with rfl | before
          · exact lt_of_le_of_ne (not_lt.mp notSmaller) (Ne.symm different)
          · exact least _ (List.mem_map_of_mem before)

theorem settleMembers_ascending (members : List (String × α)) :
    Ascending (settleMembers members) :=
  List.foldlRecOn members _ List.Pairwise.nil fun settled ascending member _ =>
    insertMember_ascending member.1 member.2 settled ascending

/-- A key after all others is put at the end. -/
theorem insertMember_last (key : String) (value : α) (members : List (String × α))
    (last : ∀ name ∈ members.map (·.1), name < key) :
    insertMember key value members = members ++ [(key, value)] := by
  induction members with
  | nil => rfl
  | cons member rest ih =>
      obtain ⟨other, old⟩ := member
      obtain ⟨smaller, others⟩ := List.forall_mem_cons.mp last
      rw [insertMember, if_neg (lt_asymm smaller), if_neg (ne_of_gt smaller), ih others]
      rfl

theorem settleMembers_of_ascending (members : List (String × α))
    (ascending : Ascending members) : settleMembers members = members := by
  -- The members are entered one by one, each behind those entered before.
  have onto : ∀ settled : List (String × α), Ascending (settled ++ members) →
      members.foldl (fun settled member => insertMember member.1 member.2 settled) settled =
        settled ++ members := by
    clear ascending
    induction members with
    | nil => simp
    | cons member rest ih =>
        intro settled ascending
        have last : ∀ name ∈ settled.map (·.1), name < member.1 := by
          rw [Ascending, List.map_append, List.pairwise_append] at ascending
          exact fun name present => ascending.2.2 name present member.1 (by simp)
        rw [List.foldl_cons, insertMember_last _ _ settled last, ih, List.append_assoc]
        · rfl
        · rwa [List.append_assoc]
  exact onto [] ascending

end

/-! Settled parts make a settled whole. -/

theorem settledItems_eq {items : List Json} (each : ∀ item ∈ items, item.settled = item) :
    settledItems items = items := by
  induction items with
  | nil => rfl
  | cons item rest ih =>
      obtain ⟨own, others⟩ := List.forall_mem_cons.mp each
      rw [settledItems, own, ih others]

theorem settledValues_eq {members : Members}
    (each : ∀ member ∈ members, member.2.settled = member.2) :
    settledValues members = members := by
  induction members with
  | nil => rfl
  | cons member rest ih =>
      obtain ⟨own, others⟩ := List.forall_mem_cons.mp each
      rw [settledValues, own, ih others]

theorem settled_array {items : List Json} (each : ∀ item ∈ items, item.settled = item) :
    settled (.array items) = .array items := by
  rw [settled, settledItems_eq each]

theorem settled_object {members : Members} (ascending : Ascending members)
    (each : ∀ member ∈ members, member.2.settled = member.2) :
    settled (.object members) = .object members := by
  rw [settled, settledValues_eq each, settleMembers_of_ascending members ascending]

end Json

/-! Written documents. -/

namespace Value

theorem writeElements_settled {part : PartWriter} {element : TypeNode} {items : List Value}
    (each : ∀ place json, ∀ item ∈ items, part place element item = .ok json → json.settled = json)
    {place : String} {index : Nat} {documents : List Json}
    (written : writeElements part place element index items = .ok documents) :
    ∀ json ∈ documents, json.settled = json := by
  induction items generalizing index documents with
  | nil =>
      obtain rfl : [] = documents := Except.ok.inj written
      exact nofun
  | cons item rest ih =>
      obtain ⟨json, first, remaining⟩ := bind_ok_iff.mp written
      obtain ⟨jsons, after, result⟩ := bind_ok_iff.mp remaining
      obtain rfl : json :: jsons = documents := Except.ok.inj result
      have others := ih (fun place json item later =>
        each place json item (List.mem_cons_of_mem _ later)) after
      exact List.forall_mem_cons.mpr ⟨each _ _ item List.mem_cons_self first, others⟩

theorem writeComponents_settled {part : PartWriter} {values : List (String × Value)}
    (each : ∀ place node json name value, (name, value) ∈ values →
      part place node value = .ok json → json.settled = json)
    {place : String} {components : List (Component TypeNode)} {members : Members}
    (written : writeComponents part place values components = .ok members) :
    ∀ member ∈ members, member.2.settled = member.2 := by
  induction components generalizing members with
  | nil =>
      obtain rfl : [] = members := Except.ok.inj written
      exact nofun
  | cons component rest ih =>
      rw [writeComponents] at written
      cases found : values.lookup component.name with
      | none =>
          rw [found] at written
          exact ih written
      | some value =>
          rw [found] at written
          obtain ⟨json, first, remaining⟩ := bind_ok_iff.mp written
          obtain ⟨after, following, result⟩ := bind_ok_iff.mp remaining
          obtain rfl : (component.name, json) :: after = members := Except.ok.inj result
          exact List.forall_mem_cons.mpr ⟨each _ _ _ _ _ (mem_of_lookup found) first, ih following⟩

theorem writeShape_settled {part : PartWriter} {place : String} {shape : Shape TypeNode}
    {value : Value} {json : Json} (each : ∀ place node json content, content.depth < value.depth →
      part place node content = .ok json → json.settled = json)
    (written : writeShape part place shape value = .ok json) : json.settled = json := by
  cases writeShape_ok_iff.mp written with
  | sequenceOf listed =>
      exact Json.settled_array (writeElements_settled (fun place json item member =>
        each place _ json item (Nat.lt_succ_of_le (item_depth_le member))) listed)
  | sequence listed =>
      have all := writeComponents_settled (fun place node json name content member =>
        each place node json content (Nat.lt_succ_of_le (component_depth_le member))) listed
      exact Json.settled_object (Json.settleMembers_ascending _)
        fun member settled => all member (Json.mem_settleMembers settled)
  | choice _ first =>
      have own := each _ _ _ _ (Nat.lt_succ_self _) first
      exact Json.settled_object (List.pairwise_singleton _ _) (by simpa using own)
  | _ => rfl

theorem writePart_settled {module : TypeModule} {place : String} {node : TypeNode} {value : Value}
    {json : Json} (written : writePart module place node value = .ok json) :
    json.settled = json := by
  induction levels : value.depth using Nat.strongRecOn generalizing place node value json with
  | ind levels ih =>
      subst levels
      rw [writePart_eq] at written
      split at written
      · cases written
      · have each : ∀ place node json content, content.depth < value.depth →
            writePart module place node content = .ok json → json.settled = json :=
          fun place node json content less shown => ih _ less shown rfl
        exact writeShape_settled each written

theorem toJson_settled {module : TypeModule} {node : TypeNode} {value : Value} {json : Json}
    (written : value.toJson module node = .ok json) : json.settled = json :=
  writePart_settled written

end Value

end Asn1Constraints
