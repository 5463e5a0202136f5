import Asn1Constraints.Proofs.SettledDocuments
import Mathlib

/-!
Written documents whose members are met in another order. Settling puts members
in ascending order, a reader of the text meets them as they were written; a
record finds each of its parts by name either way, so what is read from a
written document is shown once for any order.
-/

namespace Asn1Constraints

theorem lookup_mapEntries {Key Entry Other : Type} [BEq Key] (change : Entry → Other)
    (table : List (Key × Entry)) (key : Key) :
    List.lookup key (table.map fun entry => (entry.1, change entry.2)) =
      (table.lookup key).map change := by
  induction table with
  | nil => rfl
  | cons entry rest ih =>
      rw [List.map_cons, List.lookup_cons, List.lookup_cons, ih]
      split <;> rfl

/-- Members under the names of written ones, each name once, each value
rearranged. -/
structure Members.Meets (arrange : Json → Json) (written met : Members) : Prop where
  once : (met.map (·.1)).Nodup
  lookup : ∀ name, met.lookup name = (written.lookup name).map arrange

namespace Json

/-- What may happen to a document between writing and reading: the members of
its objects change places, all the way down. -/
structure Rearranges (arrange : Json → Json) : Prop where
  scalar : ∀ json, json.depth = 0 → arrange json = json
  array : ∀ items, arrange (.array items) = .array (items.map arrange)
  object : ∀ members : Members, (members.map (·.1)).Nodup →
    ∃ met, arrange (.object members) = .object met ∧ members.Meets arrange met

theorem settledItems_map (items : List Json) : settledItems items = items.map settled := by
  induction items with
  | nil => rfl
  | cons item rest ih => rw [settledItems, ih, List.map_cons]

theorem settledValues_map (members : Members) :
    settledValues members = members.map fun member => (member.1, member.2.settled) := by
  induction members with
  | nil => rfl
  | cons member rest ih => rw [settledValues, ih, List.map_cons]

theorem Ascending.nodup {members : Members} (ascending : Ascending members) :
    (members.map (·.1)).Nodup :=
  ascending.imp ne_of_lt

theorem rearranges_settled : Rearranges settled where
  scalar json flat := by
    cases json with
    | array items => cases flat
    | object members => cases flat
    | _ => rfl
  array items := by rw [settled, settledItems_map]
  object members distinct := by
    have keys : ((settledValues members).map (·.1)) = members.map (·.1) := by
      simp [settledValues_map]
    refine ⟨settleMembers (settledValues members), rfl, (settleMembers_ascending _).nodup, ?_⟩
    intro name
    rw [lookup_settleMembers _ (keys ▸ distinct), settledValues_map, lookup_mapEntries]

theorem rearranges_id : Rearranges id where
  scalar _ _ := rfl
  array items := by rw [List.map_id]; rfl
  object members distinct := ⟨members, rfl, distinct, by simp⟩

end Json

/-! The parts of a record. -/

namespace Members

theorem optional?_of_nodup {α : Type} (members : Members) (once : (members.map (·.1)).Nodup)
    (name : String) (reader : Json → Except Fault α) :
    members.optional? name reader =
      match members.lookup name with
      | some json => (reader json).map some
      | none => .ok none := by
  have single : ¬ 1 < members.countP (·.1 == name) := by
    have counted := List.nodup_iff_count_le_one.mp once name
    rw [List.count_eq_countP, List.countP_map] at counted
    exact not_lt.mpr counted
  rw [optional?, part?, if_neg single]
  cases members.lookup name with
  | none => rfl
  | some json => exact (bind_pure_comp some (reader json)).trans rfl

section

variable {arrange : Json → Json} {written met : Members} {α : Type} {name : String} {json : Json}

theorem Meets.part (meets : written.Meets arrange met) (found : written.lookup name = some json)
    (reader : Json → Except Fault α) :
    met.optional? name reader = (reader (arrange json)).map some := by
  rw [optional?_of_nodup _ meets.once, meets.lookup, found]
  rfl

theorem Meets.present (meets : written.Meets arrange met) (found : written.lookup name = some json)
    {reader : Json → Except Fault α} {value : α} (back : reader (arrange json) = .ok value) :
    met.optional? name reader = .ok (some value) := by
  rw [meets.part found, back]
  rfl

theorem Meets.absent (meets : written.Meets arrange met) (missing : written.lookup name = none)
    (reader : Json → Except Fault α) : met.optional? name reader = .ok none := by
  rw [optional?_of_nodup _ meets.once, meets.lookup, missing]
  rfl

theorem Meets.depth_le (meets : written.Meets arrange met)
    (found : written.lookup name = some json) : (arrange json).depth ≤ Json.membersDepth met := by
  have member : met.lookup name = some (arrange json) := by rw [meets.lookup, found]; rfl
  exact Json.member_depth_le (mem_of_lookup member)

end

end Members

/-! Parts that read back. -/

namespace Json.Rearranges

variable {arrange : Json → Json} (rearranges : Rearranges arrange)
include rearranges

theorem string_back (text : String) : readString (arrange (.string text)) = .ok text := by
  rw [rearranges.scalar _ rfl]
  rfl

theorem boolean_back (value : Bool) : readBoolean (arrange (.boolean value)) = .ok value := by
  rw [rearranges.scalar _ rfl]
  rfl

theorem int64_back (n : Int64) : readInt64 (arrange (.ofInt64 n)) = .ok n := by
  rw [rearranges.scalar _ rfl]
  have bound : n.toInt ≤ Int64.maxValue.toInt := Int64.toInt_le n
  simp [readInt64, Json.ofInt64, WholeNumber.ofInt64, bound]

theorem uint64_back (n : UInt64) : readUInt64 (arrange (.ofUInt64 n)) = .ok n := by
  rw [rearranges.scalar _ rfl]
  simp [readUInt64, Json.ofUInt64, WholeNumber.ofUInt64]

theorem uint32_back (n : UInt32) : readUInt32 (arrange (.ofUInt32 n)) = .ok n := by
  rw [rearranges.scalar _ rfl]
  have bound : n.toNat < UInt32.size := n.toNat_lt
  simp [readUInt32, Json.ofUInt32, WholeNumber.ofUInt32, bound]

theorem real_back (x : Binary64) (finite : x.isFinite = true) :
    readReal (arrange (.ofReal x)) = .ok x := by
  have written : Json.ofReal x = .real ⟨x, finite⟩ := by
    rw [Json.ofReal, Json.ofReal?, dif_pos finite]
    rfl
  rw [written, rearranges.scalar _ rfl]
  rfl

theorem name_back {known : List String} {name : String} (isKnown : name ∈ known) :
    readName known (arrange (.string name)) = .ok name := by
  rw [rearranges.scalar _ rfl, readName, if_pos (List.contains_iff_mem.mpr isKnown)]

/-- A list whose items are written one by one, each read back as something. -/
theorem list_read {α β : Type} {reader : Json → Except Fault β} {write : α → Json}
    {back : α → Except Fault β} (values : List α)
    (each : ∀ value ∈ values, reader (arrange (write value)) = back value) :
    readList reader (arrange (.array (values.map write))) = values.mapM back := by
  rw [rearranges.array, List.map_map, readList]
  induction values with
  | nil => rfl
  | cons first rest ih =>
      obtain ⟨own, others⟩ := List.forall_mem_cons.mp each
      rw [List.map_cons, List.mapM_cons, List.mapM_cons, ih others, Function.comp_apply, own]

theorem list_back {α : Type} {reader : Json → Except Fault α} {write : α → Json} (values : List α)
    (each : ∀ value ∈ values, reader (arrange (write value)) = .ok value) :
    readList reader (arrange (.array (values.map write))) = .ok values := by
  rw [rearranges.list_read values each]
  exact (List.mapM_pure (m := Except Fault) (f := id)).trans (by rw [List.map_id]; rfl)

theorem item_depth_lt {α : Type} {write : α → Json} {values : List α} {value : α}
    (member : value ∈ values) :
    (arrange (write value)).depth < (arrange (.array (values.map write))).depth := by
  rw [rearranges.array]
  exact Nat.lt_succ_of_le
    (Json.item_depth_le (List.mem_map_of_mem (List.mem_map_of_mem member)))

theorem names_back (names : List String) :
    readList readString (arrange (.ofNames names)) = .ok names :=
  rearranges.list_back names fun name _ => rearranges.string_back name

end Json.Rearranges

theorem SizeBounds.members_back {arrange : Json → Json} (rearranges : Json.Rearranges arrange)
    (size : SizeBounds) {written met : Members} (meets : written.Meets arrange met)
    (least : written.lookup "min_size" = some (.ofUInt64 size.minSize))
    (greatest : written.lookup "max_size" = some (.ofUInt64 size.maxSize)) :
    SizeBounds.ofMembers met = .ok size := by
  rw [SizeBounds.ofMembers, meets.present greatest (rearranges.uint64_back _),
    meets.present least (rearranges.uint64_back _)]
  rfl

end Asn1Constraints
