import Asn1Constraints.Proofs.ModelDocuments
import Asn1Constraints.Proofs.PrintedDocuments
import Asn1Constraints.TypeModel.Text
import Mathlib

/-!
Modules read straight from their texts. The readers of a module keep a state of
their own in place of the members met so far, and take the members of a compact
text one by one, in the order in which they were written.
-/

namespace Asn1Constraints

namespace Json

/-! Loops over compact text with a state of any kind. -/

section

variable {σ : Type}

/-- A reader takes the members one by one, none of them twice, and ends in a state. -/
inductive TakesMembers (isTaken : σ → String → Bool)
    (member : σ → String → List Char → Scanned σ) : σ → Members → σ → Prop
  | done (state : σ) : TakesMembers isTaken member state [] state
  | next {state after last : σ} {key : String} {value : Json} {members : Members}
      (free : isTaken state key = false)
      (taken : ∀ rest, EndsNumber rest →
        member state key (value.compactChars ++ rest) = .ok (after, rest))
      (others : TakesMembers isTaken member after members last) :
      TakesMembers isTaken member state ((key, value) :: members) last

/-- A reader takes the items one by one and ends in a state. -/
inductive TakesItems (item : σ → List Char → Scanned σ) : σ → List Json → σ → Prop
  | done (state : σ) : TakesItems item state [] state
  | next {state after last : σ} {value : Json} {items : List Json}
      (taken : ∀ rest, EndsNumber rest →
        item state (value.compactChars ++ rest) = .ok (after, rest))
      (others : TakesItems item after items last) :
      TakesItems item state (value :: items) last

variable {isTaken : σ → String → Bool} {member : σ → String → List Char → Scanned σ}
  {item : σ → List Char → Scanned σ} {state last : σ}

theorem foldMembers_takes (members : Members) :
    ∀ key value state loops rest,
      TakesMembers isTaken member state ((key, value) :: members) last →
      members.length < loops →
      foldMembers true isTaken member loops state
          (stringChars key ++ ':' :: (value.compactChars ++ (compactMembers members ++ rest))) =
        .ok (last, rest) := by
  induction members with
  | nil =>
      intro key value state loops rest takes enough
      obtain ⟨loops, rfl⟩ : ∃ fewer, loops = fewer + 1 := ⟨loops - 1, by omega⟩
      obtain _ | ⟨free, taken, others⟩ := takes
      cases others
      rw [foldMembers_key _ _ free, skipBlanks_compact, taken _ (endsNumber_members [] rest)]
      simp [compactMembers, skipBlanks_cons (show isBlank '\x7d' = false from rfl)]
  -- Behind a comma the next member is taken, with one loop less.
  | cons second members ih =>
      intro key value state loops rest takes enough
      obtain ⟨loops, rfl⟩ : ∃ fewer, loops = fewer + 1 := ⟨loops - 1, by omega⟩
      obtain _ | ⟨free, taken, others⟩ := takes
      have after := ih second.1 second.2 _ loops rest others (by simpa using enough)
      rw [foldMembers_key _ _ free, skipBlanks_compact,
        taken _ (endsNumber_members (second :: members) rest)]
      simp [compactMembers, skipBlanks_cons (show isBlank ',' = false from rfl), after]

theorem scanMembers_takes {members : Members}
    (takes : TakesMembers isTaken member state members last) {budget : ℕ}
    (enough : members.length ≤ budget) (rest : List Char) :
    ∃ inside, (compactChars (.object members)) = '\x7b' :: inside ∧
      scanMembers true budget isTaken member state (inside ++ rest) = .ok (last, rest) := by
  cases members with
  | nil =>
      cases takes
      exact ⟨_, rfl, rfl⟩
  | cons first members =>
      obtain ⟨key, value⟩ := first
      refine ⟨_, rfl, ?_⟩
      have folded := foldMembers_takes members key value state budget rest takes enough
      simp only [List.append_assoc, List.cons_append]
      rw [← folded, scanMembers, stringChars, List.cons_append, skipBlanks_cons rfl]
      rfl

theorem foldItems_takes (items : List Json) :
    ∀ first state loops rest, TakesItems item state (first :: items) last →
      items.length < loops →
      foldItems item loops state (first.compactChars ++ (compactItems items ++ rest)) =
        .ok (last, rest) := by
  induction items with
  | nil =>
      intro first state loops rest takes enough
      obtain ⟨loops, rfl⟩ : ∃ fewer, loops = fewer + 1 := ⟨loops - 1, by omega⟩
      obtain _ | ⟨taken, others⟩ := takes
      cases others
      rw [foldItems, skipBlanks_compact, taken _ (endsNumber_items [] rest)]
      simp [compactItems, skipBlanks_cons (show isBlank ']' = false from rfl)]
  | cons second items ih =>
      intro first state loops rest takes enough
      obtain ⟨loops, rfl⟩ : ∃ fewer, loops = fewer + 1 := ⟨loops - 1, by omega⟩
      obtain _ | ⟨taken, others⟩ := takes
      have after := ih second _ loops rest others (by simpa using enough)
      rw [foldItems, skipBlanks_compact, taken _ (endsNumber_items (second :: items) rest)]
      simp [compactItems, skipBlanks_cons (show isBlank ',' = false from rfl), after]

theorem scanItems_takes {items : List Json} (takes : TakesItems item state items last)
    {budget : ℕ} (enough : items.length ≤ budget) (rest : List Char) :
    ∃ inside, (compactChars (.array items)) = '[' :: inside ∧
      scanItems budget item state (inside ++ rest) = .ok (last, rest) := by
  cases items with
  | nil =>
      cases takes
      exact ⟨_, rfl, rfl⟩
  | cons first items =>
      refine ⟨_, rfl, ?_⟩
      have folded := foldItems_takes items first state budget rest takes enough
      -- No document starts with a closing bracket, so the loop is entered.
      obtain ⟨c, tail, printed, opens⟩ := compactChars_opens first
      rw [List.append_assoc, ← folded, scanItems, skipBlanks_compact]
      rw [printed, List.cons_append]
      split
      · rename_i same
        exact absurd (List.cons.inj same).1 opens.2.2
      · rfl

end

/-! Simple parts. -/

theorem scalar_begins (json : Json) (flat : json.depth = 0) :
    ∃ c tail, json.compactChars = c :: tail ∧ c ≠ '[' ∧ c ≠ '\x7b' := by
  have number : ∀ c, c = '-' ∨ c.isDigit = true → c ≠ '[' ∧ c ≠ '\x7b' := by
    rintro c (rfl | digit)
    · exact ⟨by decide, by decide⟩
    · refine ⟨?_, ?_⟩ <;> (rintro rfl; revert digit; decide)
  cases json with
  | null => exact ⟨'n', _, rfl, by decide, by decide⟩
  | boolean value => cases value <;> exact ⟨_, _, rfl, by decide, by decide⟩
  | integer n =>
      obtain ⟨c, tail, printed, first⟩ := wholeChars_begins n
      exact ⟨c, tail, printed, number c first⟩
  | real x =>
      obtain ⟨c, tail, printed, first⟩ := realChars_begins x
      exact ⟨c, tail, printed, number c first⟩
  | string text => exact ⟨'"', _, rfl, by decide, by decide⟩
  | array items => cases flat
  | object members => cases flat

theorem scanSimple_scalar {α : Type} (reader : Json → Except Fault α) (json : Json)
    (flat : json.depth = 0) (rest : List Char) (ends : EndsNumber rest) :
    scanSimple reader (json.compactChars ++ rest) =
      ((reader json).mapError .mismatch).map fun value => (value, rest) := by
  obtain ⟨c, tail, printed, noArray, noObject⟩ := scalar_begins json flat
  have scanned := scans_of_length json _ (Nat.le_refl _) 0 rest ends
  rw [keptWithin, if_pos (Nat.le_of_eq flat)] at scanned
  rw [printed, List.cons_append] at scanned ⊢
  rw [scanDocument_scalar _ _ _ noArray noObject] at scanned
  rw [scanSimple]
  · rw [scanned]
  · exact fun _ same => noArray (List.cons.inj same).1
  · exact fun _ same => noObject (List.cons.inj same).1

theorem scanPart_string (text : String) (rest : List Char) (ends : EndsNumber rest) :
    scanPart (scanSimple readString) ((Json.string text).compactChars ++ rest) =
      .ok (some text, rest) := by
  rw [scanPart, scanSimple_scalar readString _ rfl rest ends]
  rfl

end Json

open Json

namespace TypeNode

/-- The members of a node are kept as they come, the latest first. -/
theorem takes_members {budget levels : ℕ} (members : Members) :
    ∀ before : Members, ((members ++ before).map (·.1)).Nodup →
      (∀ entry ∈ members, Scans budget entry.2 ∧ entry.2.depth ≤ levels) →
      (∀ json, ("id", json) ∈ members → ∃ id, json = .ofUInt32 id) →
      TakesMembers isTaken (scanMember budget levels) before members
        (members.reverse ++ before) := by
  induction members with
  | nil => exact fun before _ _ _ => .done before
  | cons entry members ih =>
      intro before distinct each ids
      obtain ⟨key, value⟩ := entry
      obtain ⟨⟨scans, shallow⟩, others⟩ := List.forall_mem_cons.mp each
      -- The member joins those met before, where none of the keys to come may stand.
      have moved : ((members ++ (key, value) :: before).map (·.1)).Nodup :=
        (List.perm_middle.map _).nodup_iff.mpr distinct
      have after := ih ((key, value) :: before) moved others fun json member =>
        ids json (List.mem_cons_of_mem _ member)
      rw [List.reverse_cons, List.append_assoc, List.singleton_append]
      refine .next ?_ ?_ after
      · have absent : key ∉ before.map (·.1) := fun earlier =>
          (List.nodup_cons.mp distinct).1 (by simp [List.mem_append.mpr (.inr earlier)])
        rw [isTaken, (lookup_eq_none_iff_absent _ _).mpr absent]
        simp
      · intro rest ends
        rw [scanMember]
        -- Only the id is read at once, all else is kept as the document that it is.
        by_cases isId : key = "id"
        · subst isId
          obtain ⟨id, rfl⟩ := ids value List.mem_cons_self
          have read := Json.rearranges_id.uint32_back id
          rw [if_pos rfl, scanSimple_scalar readUInt32 _ rfl rest ends]
          rw [id_eq] at read
          rw [read]
          rfl
        · rw [if_neg isId, scans levels rest ends, keptWithin, if_pos shallow]
          rfl

theorem members_ids (node : TypeNode) :
    ∀ json, ("id", json) ∈ node.members → ∃ id, json = .ofUInt32 id := by
  intro json member
  have found := lookup_of_mem node.members_nodup member
  rw [lookup_id] at found
  split at found
  · cases found
  · exact ⟨node.id, (Option.some.inj found).symm⟩

theorem scan_text (node : TypeNode) (finite : node.FiniteReals) {budget levels : ℕ}
    (shallow : node.toJson.depth ≤ levels + 1) (enough : node.toJson.compactChars.length ≤ budget)
    (rest : List Char) :
    scan budget levels (node.toJson.compactChars ++ rest) = .ok (node, rest) := by
  have read : ofJson node.toJson = .ok node :=
    node.back Json.rearranges_id finite _ (Nat.le_refl _)
  rw [toJson_eq] at shallow enough read ⊢
  have listed := (length_object node.members).trans enough
  have counted := length_compactMembers node.members
  have each : ∀ entry ∈ node.members, Scans budget entry.2 ∧ entry.2.depth ≤ levels :=
    fun entry member => ⟨scans_of_length _ _ ((length_member_le member).trans listed),
      (member_depth_le member).trans (Nat.le_of_succ_le_succ shallow)⟩
  have takes := takes_members node.members [] (by simpa using node.members_nodup) each
    node.members_ids
  obtain ⟨inside, printed, scanned⟩ := scanMembers_takes takes (by omega : _ ≤ budget) rest
  rw [printed, List.cons_append, scan]
  simp only [scanned, List.append_nil, List.reverse_reverse, read, bind, Except.bind,
    Except.mapError, pure, Except.pure]

end TypeNode

namespace TypeAssignment

theorem scan_text (assignment : TypeAssignment) (finite : assignment.type.FiniteReals)
    {budget : ℕ} (shallow : assignment.type.toJson.depth ≤ nodeLevels + 1)
    (enough : assignment.toJson.compactChars.length ≤ budget) (rest : List Char) :
    scan budget (assignment.toJson.compactChars ++ rest) = .ok (assignment, rest) := by
  have listed : (compactMembers (namedMembers assignment.name assignment.type)).length ≤ budget :=
    (length_object _).trans enough
  have inner := (length_member_le (type_mem_named assignment.name assignment.type)).trans listed
  have takesType : TakesMembers isTaken (scanMember budget) ⟨some assignment.name, none⟩
      [("type", assignment.type.toJson)] ⟨some assignment.name, some assignment.type⟩ := by
    refine .next rfl (fun rest _ => ?_) (.done _)
    rw [scanMember, if_neg (by decide), if_pos rfl, scanPart,
      assignment.type.scan_text finite shallow inner]
    rfl
  have takes : TakesMembers isTaken (scanMember budget) ⟨none, none⟩
      (namedMembers assignment.name assignment.type)
      ⟨some assignment.name, some assignment.type⟩ := by
    refine .next rfl (fun rest ends => ?_) takesType
    rw [scanMember, if_pos rfl, scanPart_string _ _ ends]
    rfl
  have counted := length_compactMembers (namedMembers assignment.name assignment.type)
  obtain ⟨inside, printed, scanned⟩ := scanMembers_takes takes (by omega : _ ≤ budget) rest
  have opened : assignment.toJson.compactChars = '\x7b' :: inside := printed
  rw [opened, List.cons_append, scan]
  simp only [scanned, bind, Except.bind]
  rfl

/-- An assignment put before those scanned so far. -/
def scanNext (budget : ℕ) (known : List TypeAssignment) (chars : List Char) :
    Scanned (List TypeAssignment) :=
  (scan budget chars).map fun scanned => (scanned.1 :: known, scanned.2)

theorem takes_assignments (budget : ℕ) (types : List TypeAssignment)
    (each : ∀ assignment ∈ types, ∀ rest,
      scan budget (assignment.toJson.compactChars ++ rest) = .ok (assignment, rest)) :
    ∀ known, TakesItems (scanNext budget) known (types.map toJson) (types.reverse ++ known) := by
  induction types with
  | nil => exact fun known => .done known
  | cons assignment types ih =>
      intro known
      obtain ⟨own, others⟩ := List.forall_mem_cons.mp each
      rw [List.reverse_cons, List.append_assoc, List.singleton_append]
      refine .next (fun rest _ => ?_) (ih others (assignment :: known))
      rw [scanNext, own]
      rfl

theorem scanList_text (types : List TypeAssignment)
    (finite : ∀ assignment ∈ types, assignment.type.FiniteReals) {budget : ℕ}
    (shallow : ∀ assignment ∈ types, assignment.type.toJson.depth ≤ nodeLevels + 1)
    (enough : (compactChars (.array (types.map toJson))).length ≤ budget) (rest : List Char) :
    scanList budget (compactChars (.array (types.map toJson)) ++ rest) = .ok (types, rest) := by
  have listed := (length_array (types.map toJson)).trans enough
  have counted := length_compactItems (types.map toJson)
  have takes := takes_assignments budget types (fun assignment member rest =>
    assignment.scan_text (finite assignment member) (shallow assignment member)
      ((length_item_le (List.mem_map_of_mem member)).trans listed) rest) []
  obtain ⟨inside, printed, scanned⟩ := scanItems_takes takes (by omega : _ ≤ budget) rest
  have entered : scanList budget ('[' :: (inside ++ rest)) =
      (scanItems budget (scanNext budget) [] (inside ++ rest)).map
        fun scanned => (scanned.1.reverse, scanned.2) := by
    rw [scanList]
    exact (bind_pure_comp _ _).trans rfl
  rw [printed, List.cons_append, entered, scanned]
  simp [Except.map]

end TypeAssignment

namespace TypeModule

/-- The levels that a node may nest are those that are left inside its module. -/
theorem nodes_shallow (module : TypeModule) (shallow : module.toJson.depth ≤ levelLimit) :
    ∀ assignment ∈ module.types,
      assignment.type.toJson.depth ≤ TypeAssignment.nodeLevels + 1 := by
  intro assignment declared
  have types : (Json.array (module.types.map TypeAssignment.toJson)).depth <
      module.toJson.depth := Nat.lt_succ_of_le (member_depth_le module.types_mem_members)
  have listed : assignment.toJson.depth <
      (Json.array (module.types.map TypeAssignment.toJson)).depth :=
    Nat.lt_succ_of_le (item_depth_le (List.mem_map_of_mem declared))
  have part : assignment.type.toJson.depth < assignment.toJson.depth :=
    Nat.lt_succ_of_le (member_depth_le (type_mem_named assignment.name assignment.type))
  rw [levelLimit] at shallow
  rw [TypeAssignment.nodeLevels, levelLimit]
  omega

/-- The text of a module is read as the module, if it nests no deeper than the
reader allows. -/
theorem ofText_text (module : TypeModule) (finite : module.FiniteReals)
    (shallow : module.toJson.depth ≤ levelLimit) : ofText module.toJson.text = .ok module := by
  have length : module.toJson.text.length = module.toJson.compactChars.length :=
    String.length_ofList
  generalize size : module.toJson.compactChars.length = budget at length
  have enough : (compactMembers module.members).length ≤ budget :=
    size ▸ length_object module.members
  have inner := (length_member_le module.types_mem_members).trans enough
  -- The state fills in the order of writing; the steps are put together from the last one.
  have takesTypes : TakesMembers isTaken (scanMember budget)
      ⟨some module.version, some module.name, none⟩
      [("types", .array (module.types.map TypeAssignment.toJson))]
      ⟨some module.version, some module.name, some module.types⟩ := by
    refine .next rfl (fun rest _ => ?_) (.done _)
    rw [scanMember, if_neg (by decide), if_neg (by decide), if_pos rfl, scanPart,
      TypeAssignment.scanList_text module.types (fun _ => finite.type)
        (module.nodes_shallow shallow) inner]
    rfl
  have takesName : TakesMembers isTaken (scanMember budget) ⟨some module.version, none, none⟩
      [("name", .string module.name),
        ("types", .array (module.types.map TypeAssignment.toJson))]
      ⟨some module.version, some module.name, some module.types⟩ := by
    refine .next rfl (fun rest ends => ?_) takesTypes
    rw [scanMember, if_neg (by decide), if_pos rfl, scanPart_string _ _ ends]
    rfl
  have takes : TakesMembers isTaken (scanMember budget) ⟨none, none, none⟩ module.members
      ⟨some module.version, some module.name, some module.types⟩ := by
    refine .next rfl (fun rest ends => ?_) takesName
    rw [scanMember, if_pos rfl, scanPart_string _ _ ends]
    rfl
  have counted := length_compactMembers module.members
  obtain ⟨inside, printed, scanned⟩ := scanMembers_takes takes (by omega : _ ≤ budget) []
  have start := skipBlanks_compact module.toJson []
  rw [List.append_nil] at start scanned
  have opened : module.toJson.compactChars = '\x7b' :: inside := printed
  rw [ofText, length, text, String.toList_ofList, start, opened, scan]
  simp only [scanned, bind, Except.bind]
  rfl

end TypeModule

end Asn1Constraints
