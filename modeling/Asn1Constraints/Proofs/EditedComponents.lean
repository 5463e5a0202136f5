import Asn1Constraints.Proofs.Names
import Asn1Constraints.Value.Basic
import Mathlib

/-!
Edits of the components of a sequence. Where no name occurs twice, the sequence
answers any run of edits as the finite map of its components does, and no edit
makes a name occur twice. What is replaced keeps its place, what is new comes
last, and everything else stays where it is. Other values refuse every edit.
-/

namespace Asn1Constraints

namespace Components

variable {α : Type} {name : String}

/-- A name occurs for a first time or not at all. -/
theorem split_or_absent (name : String) (components : List (String × α)) :
    (∃ left old right, components = left ++ (name, old) :: right ∧ name ∉ left.map Prod.fst) ∨
      name ∉ components.map Prod.fst := by
  cases found : components.lookup name with
  | none => exact .inr ((lookup_eq_none_iff_absent components name).mp found)
  | some old =>
      obtain ⟨left, right, rfl, before⟩ := List.lookup_eq_some_iff.mp found
      refine .inl ⟨left, old, right, rfl, ?_⟩
      rw [← lookup_eq_none_iff_absent, List.lookup_eq_none_iff]
      exact before

/-- Components of other names are passed over. -/
theorem set_append {left : List (String × α)} (fresh : name ∉ left.map Prod.fst) (part : α)
    (right : List (String × α)) : set name part (left ++ right) = left ++ set name part right := by
  induction left with
  | nil => rfl
  | cons entry rest ih =>
      have apart := List.ne_of_not_mem_cons fresh
      have others := List.not_mem_of_not_mem_cons fresh
      simp [set, Ne.symm apart, ih others]

theorem set_split {left : List (String × α)} (fresh : name ∉ left.map Prod.fst)
    (old part : α) (right : List (String × α)) :
    set name part (left ++ (name, old) :: right) = left ++ (name, part) :: right := by
  rw [set_append fresh, set, if_pos rfl]

theorem set_absent {components : List (String × α)} (absent : name ∉ components.map Prod.fst)
    (part : α) : set name part components = components ++ [(name, part)] := by
  have passed := set_append absent part []
  rwa [List.append_nil] at passed

/-- An assignment replaces like any other, but appends nothing. -/
theorem assign?_eq (name : String) (part : α) (components : List (String × α)) :
    assign? name part components =
      if name ∈ components.map Prod.fst then some (set name part components) else none := by
  induction components with
  | nil => rfl
  | cons entry rest ih =>
      by_cases same : entry.1 = name
      · simp [assign?, set, same]
      · rw [assign?, if_neg same, ih, set, if_neg same]
        simp only [List.map_cons, List.mem_cons, Ne.symm same, false_or]
        split <;> rfl

theorem remove?_append {left : List (String × α)} (fresh : name ∉ left.map Prod.fst)
    (right : List (String × α)) : remove? name (left ++ right) =
      (remove? name right).map fun removed => (removed.1, left ++ removed.2) := by
  induction left with
  | nil => simp
  | cons entry rest ih =>
      have apart := List.ne_of_not_mem_cons fresh
      have others := List.not_mem_of_not_mem_cons fresh
      simp [remove?, Ne.symm apart, ih others, Function.comp_def]

theorem remove?_split {left : List (String × α)} (fresh : name ∉ left.map Prod.fst)
    (old : α) (right : List (String × α)) :
    remove? name (left ++ (name, old) :: right) = some (old, left ++ right) := by
  simp [remove?_append fresh, remove?]

theorem remove?_absent {components : List (String × α)}
    (absent : name ∉ components.map Prod.fst) : remove? name components = none := by
  have passed := remove?_append absent []
  rwa [List.append_nil] at passed

/-! What is found afterwards. -/

theorem lookup_set (name : String) (part : α) (components : List (String × α)) (other : String) :
    (set name part components).lookup other =
      if other = name then some part else components.lookup other := by
  induction components with
  | nil => rw [set, lookup_cons_if]
  | cons entry rest ih =>
      by_cases here : entry.1 = name
      · rw [set, if_pos here, lookup_cons_if, lookup_cons_if, here]
        split <;> rfl
      · rw [set, if_neg here, lookup_cons_if, lookup_cons_if, ih]
        by_cases same : other = name
        · simp [same, Ne.symm here]
        · simp [same]

theorem lookup_removed {left right : List (String × α)} {old : α}
    (distinct : ((left ++ (name, old) :: right).map Prod.fst).Nodup) (other : String) :
    (left ++ right).lookup other =
      if other = name then none else (left ++ (name, old) :: right).lookup other := by
  by_cases same : other = name
  · -- A second component of the name would come to light here.
    rw [if_pos same, lookup_eq_none_iff_absent, same, List.map_append]
    rw [List.map_append, List.map_cons, List.nodup_middle, List.nodup_cons] at distinct
    exact distinct.1
  · simp [List.lookup_append, lookup_cons_if, same]

end Components

inductive Edit where
  | set (name : String) (part : Value)
  | assign (name : String) (part : Value)
  | remove (name : String)

/-- Whether something was changed, or what was taken out. -/
inductive EditReply where
  | changed (done : Bool)
  | removed (part : Option Value)

/-- Components without an order. -/
abbrev ComponentMap := Finmap fun _ : String => Value

def ComponentMap.ofComponents (components : List (String × Value)) : ComponentMap :=
  components.foldr (fun entry map => map.insert entry.1 entry.2) ∅

theorem ComponentMap.lookup_insert_if (map : ComponentMap) (name : String) (part : Value)
    (other : String) :
    (map.insert name part).lookup other = if other = name then some part else map.lookup other := by
  by_cases same : other = name
  · rw [if_pos same, same, Finmap.lookup_insert]
  · rw [if_neg same, Finmap.lookup_insert_of_ne _ same]

theorem ComponentMap.lookup_erase_if (map : ComponentMap) (name other : String) :
    (map.erase name).lookup other = if other = name then none else map.lookup other := by
  by_cases same : other = name
  · rw [if_pos same, same, Finmap.lookup_erase]
  · rw [if_neg same, Finmap.lookup_erase_ne same]

theorem ComponentMap.erase_absent {map : ComponentMap} {name : String}
    (absent : map.lookup name = none) : map.erase name = map := by
  refine Finmap.ext_lookup fun other => ?_
  rw [lookup_erase_if]
  by_cases same : other = name
  · rw [if_pos same, same, absent]
  · rw [if_neg same]

namespace Edit

def name : Edit → String
  | .set name _ => name
  | .assign name _ => name
  | .remove name => name

def onValue : Edit → StateM Value EditReply
  | .set name part, value =>
    match value.setComponent? name part with
    | some edited => (.changed true, edited)
    | none => (.changed false, value)
  | .assign name part, value =>
    match value.assignComponent? name part with
    | some edited => (.changed true, edited)
    | none => (.changed false, value)
  | .remove name, value =>
    match value.removeComponent? name with
    | some (part, rest) => (.removed (some part), rest)
    | none => (.removed none, value)

def onMap : Edit → StateM ComponentMap EditReply
  | .set name part, map => (.changed true, map.insert name part)
  | .assign name part, map =>
    if name ∈ map then (.changed true, map.insert name part) else (.changed false, map)
  | .remove name, map => (.removed (map.lookup name), map.erase name)

/-- The reply where nothing can be edited. -/
def refusal : Edit → EditReply
  | .set _ _ => .changed false
  | .assign _ _ => .changed false
  | .remove _ => .removed none

/-- What an edit does to the components, place by place. -/
inductive Alters : Edit → List (String × Value) → List (String × Value) → Prop where
  | replaced {name old part left right} :
      Alters (.set name part) (left ++ (name, old) :: right) (left ++ (name, part) :: right)
  | appended {name part components} : name ∉ components.map Prod.fst →
      Alters (.set name part) components (components ++ [(name, part)])
  | assigned {name old part left right} :
      Alters (.assign name part) (left ++ (name, old) :: right) (left ++ (name, part) :: right)
  | unassigned {name part components} : name ∉ components.map Prod.fst →
      Alters (.assign name part) components components
  | removed {name old left right} :
      Alters (.remove name) (left ++ (name, old) :: right) (left ++ right)
  | missing {name components} : name ∉ components.map Prod.fst →
      Alters (.remove name) components components

namespace Alters

variable {edit : Edit} {before after : List (String × Value)}

theorem set (name : String) (part : Value) (components : List (String × Value)) :
    Alters (.set name part) components (Components.set name part components) := by
  rcases Components.split_or_absent name components with ⟨left, old, right, rfl, fresh⟩ | absent
  · rw [Components.set_split fresh]
    exact .replaced
  · rw [Components.set_absent absent]
    exact .appended absent

theorem assign {name : String} {components : List (String × Value)}
    (present : name ∈ components.map Prod.fst) (part : Value) :
    Alters (.assign name part) components (Components.set name part components) := by
  rcases Components.split_or_absent name components with ⟨left, old, right, rfl, fresh⟩ | absent
  · rw [Components.set_split fresh]
    exact .assigned
  · exact absurd present absent

theorem distinct (alters : Alters edit before after) (distinct : (before.map Prod.fst).Nodup) :
    (after.map Prod.fst).Nodup := by
  cases alters with
  | replaced => simpa using distinct
  | appended absent =>
      rw [List.map_append, List.map_singleton, ← List.concat_eq_append]
      exact distinct.concat absent
  | assigned => simpa using distinct
  | unassigned => exact distinct
  | @removed name old left right =>
      have fewer : (left ++ right).Sublist (left ++ (name, old) :: right) :=
        (List.sublist_cons_self _ _).append_left left
      exact (fewer.map Prod.fst).nodup distinct
  | missing => exact distinct

/-- The components of other names are the same, in the same order. -/
theorem others (alters : Alters edit before after) {keep : String × Value → Bool}
    (aside : ∀ part, keep (edit.name, part) = false) : after.filter keep = before.filter keep := by
  cases alters with
  | unassigned => rfl
  | missing => rfl
  | _ => simp_all [name]

end Alters

/-- A value that is no sequence is left as it is. -/
theorem onValue_refused (edit : Edit) {value : Value}
    (other : ∀ components, value ≠ .sequence components) :
    edit.onValue value = (edit.refusal, value) := by
  cases value with
  | sequence components => exact absurd rfl (other components)
  | _ => cases edit <;> rfl

theorem run_cons {σ : Type} (step : Edit → StateM σ EditReply) (edit : Edit) (rest : List Edit)
    (state : σ) :
    ((edit :: rest).mapM step).run state =
      Prod.map ((step edit state).1 :: ·) id ((rest.mapM step).run (step edit state).2) := by
  rw [List.mapM_cons]
  rfl

theorem run_refused (edits : List Edit) {value : Value}
    (other : ∀ components, value ≠ .sequence components) :
    (edits.mapM onValue).run value = (edits.map refusal, value) := by
  induction edits with
  | nil => rfl
  | cons edit rest ih =>
      rw [run_cons, onValue_refused edit other, ih]
      rfl

end Edit

/-- Different names, and each has the value that the map has for it. -/
structure Represents (components : List (String × Value)) (map : ComponentMap) : Prop where
  distinct : (components.map Prod.fst).Nodup
  found : ∀ name, components.lookup name = map.lookup name

/-- The sequence replies as the map does, and represents it again afterwards. -/
def Edit.Agrees (edit : Edit) (components : List (String × Value)) (map : ComponentMap) : Prop :=
  ∃ after, edit.onValue (.sequence components) = ((edit.onMap map).1, .sequence after) ∧
    Represents after (edit.onMap map).2 ∧ edit.Alters components after

namespace Represents

variable {components : List (String × Value)} {map : ComponentMap}

theorem ofComponents (distinct : (components.map Prod.fst).Nodup) :
    Represents components (.ofComponents components) where
  distinct := distinct
  found name := by
    clear distinct
    induction components with
    | nil => rfl
    | cons entry rest ih =>
        rw [lookup_cons_if, ih]
        exact (ComponentMap.lookup_insert_if _ entry.1 entry.2 name).symm

theorem mem_iff (represents : Represents components map) (name : String) :
    name ∈ map ↔ name ∈ components.map Prod.fst := by
  rw [← Finmap.lookup_isSome, ← represents.found, lookup_isSome_iff]

theorem stored (represents : Represents components map) {name : String} {part : Value}
    (distinct : ((Components.set name part components).map Prod.fst).Nodup) :
    Represents (Components.set name part components) (map.insert name part) where
  distinct := distinct
  found other := by
    rw [Components.lookup_set, ComponentMap.lookup_insert_if, represents.found]

theorem removed {left right : List (String × Value)} {name : String} {old : Value}
    (represents : Represents (left ++ (name, old) :: right) map)
    (distinct : ((left ++ right).map Prod.fst).Nodup) :
    Represents (left ++ right) (map.erase name) where
  distinct := distinct
  found other := by
    rw [Components.lookup_removed represents.distinct, ComponentMap.lookup_erase_if,
      represents.found]

theorem set_agrees (represents : Represents components map) (name : String) (part : Value) :
    (Edit.set name part).Agrees components map := by
  have alters := Edit.Alters.set name part components
  exact ⟨_, rfl, represents.stored (alters.distinct represents.distinct), alters⟩

theorem assign_agrees (represents : Represents components map) (name : String) (part : Value) :
    (Edit.assign name part).Agrees components map := by
  rw [Edit.Agrees, Edit.onMap]
  by_cases present : name ∈ components.map Prod.fst
  · have alters := Edit.Alters.assign present part
    rw [if_pos ((represents.mem_iff name).mpr present)]
    refine ⟨_, ?_, represents.stored (alters.distinct represents.distinct), alters⟩
    simp only [Edit.onValue, Value.assignComponent?, Components.assign?_eq, if_pos present,
      Option.map_some]
  · rw [if_neg (mt (represents.mem_iff name).mp present)]
    refine ⟨components, ?_, represents, .unassigned present⟩
    simp only [Edit.onValue, Value.assignComponent?, Components.assign?_eq, if_neg present,
      Option.map_none]

theorem remove_agrees (represents : Represents components map) (name : String) :
    (Edit.remove name).Agrees components map := by
  rw [Edit.Agrees, Edit.onMap, ← represents.found]
  -- The component that is taken out is the first of its name.
  rcases Components.split_or_absent name components with ⟨left, old, right, rfl, fresh⟩ | absent
  · have alters : (Edit.remove name).Alters (left ++ (name, old) :: right) (left ++ right) :=
      .removed
    refine ⟨_, ?_, represents.removed (alters.distinct represents.distinct), alters⟩
    have first : (left ++ (name, old) :: right).lookup name = some old := by
      rw [List.lookup_append, (lookup_eq_none_iff_absent left name).mpr fresh, Option.none_or,
        List.lookup_cons_self]
    simp only [Edit.onValue, Value.removeComponent?, Components.remove?_split fresh,
      Option.map_some, first]
  · have nowhere : components.lookup name = none := (lookup_eq_none_iff_absent _ _).mpr absent
    rw [nowhere, ComponentMap.erase_absent (represents.found name ▸ nowhere)]
    refine ⟨components, ?_, represents, .missing absent⟩
    simp only [Edit.onValue, Value.removeComponent?, Components.remove?_absent absent,
      Option.map_none]

theorem edit_agrees (represents : Represents components map) (edit : Edit) :
    edit.Agrees components map := by
  cases edit with
  | set name part => exact represents.set_agrees name part
  | assign name part => exact represents.assign_agrees name part
  | remove name => exact represents.remove_agrees name

/-- A run of edits. -/
theorem run (represents : Represents components map) (edits : List Edit) :
    ∃ after, (edits.mapM Edit.onValue).run (.sequence components) =
        (((edits.mapM Edit.onMap).run map).1, .sequence after) ∧
      Represents after ((edits.mapM Edit.onMap).run map).2 ∧
      ∀ keep : String × Value → Bool, (∀ edit ∈ edits, ∀ part, keep (edit.name, part) = false) →
        after.filter keep = components.filter keep := by
  induction edits generalizing components map with
  | nil => exact ⟨components, rfl, represents, fun _ _ => rfl⟩
  | cons edit rest ih =>
      obtain ⟨next, replied, kept, alters⟩ := represents.edit_agrees edit
      obtain ⟨after, replies, final, still⟩ := ih kept
      refine ⟨after, ?_, ?_, fun keep aside => ?_⟩
      · rw [Edit.run_cons, Edit.run_cons, replied, replies]
        rfl
      · rw [Edit.run_cons]
        exact final
      · obtain ⟨own, others⟩ := List.forall_mem_cons.mp aside
        exact (still keep others).trans (alters.others own)

end Represents

/-- Edits of a sequence whose names are all different. Any run of them gives the
replies that the finite map of the components gives, a removal what was stored
last. After it the names are still all different, each is found with what the
map has for it, the components that no edit named are what and where they were,
and the next edit replaces in place, appends at the end or takes out. A value
that is no sequence refuses all edits and stays the same. -/
theorem edits_reply_as_map (edits : List Edit) :
    (∀ before : List (String × Value), (before.map Prod.fst).Nodup →
      ∃ replies after map,
        (edits.mapM Edit.onValue).run (.sequence before) = (replies, .sequence after) ∧
        (edits.mapM Edit.onMap).run (.ofComponents before) = (replies, map) ∧
        (after.map Prod.fst).Nodup ∧
        (∀ name, (Value.sequence after).component? name = map.lookup name) ∧
        (after.filter fun entry => entry.1 ∉ edits.map Edit.name) =
          before.filter (fun entry => entry.1 ∉ edits.map Edit.name) ∧
        ∀ edit : Edit, ∃ next,
          edit.onValue (.sequence after) = ((edit.onMap map).1, .sequence next) ∧
          edit.Alters after next) ∧
    ∀ value : Value, (∀ components, value ≠ .sequence components) →
      (edits.mapM Edit.onValue).run value = (edits.map Edit.refusal, value) ∧
      ∀ name, value.component? name = none := by
  constructor
  · intro before distinct
    obtain ⟨after, replied, represents, still⟩ := (Represents.ofComponents distinct).run edits
    refine ⟨_, after, _, replied, rfl, represents.distinct, represents.found, ?_, fun edit => ?_⟩
    · exact still _ fun edit member part => by simpa using ⟨edit, member, rfl⟩
    · obtain ⟨next, reply, _, alters⟩ := represents.edit_agrees edit
      exact ⟨next, reply, alters⟩
  · intro value other
    refine ⟨Edit.run_refused edits other, fun name => ?_⟩
    cases value with
    | sequence components => exact absurd rfl (other components)
    | _ => rfl

/-- One of the names is taken out and comes back, and one is never there. -/
def relabelling : List Edit :=
  [.set "width" (.integer 4), .remove "label", .assign "depth" .null,
    .set "label" (.ia5String "b"), .remove "label", .remove "label"]

theorem relabelling_replied :
    ([("label", Value.ia5String "a"), ("width", .integer 3), ("height", .integer 2)].map
        Prod.fst).Nodup ∧
      ((relabelling.mapM Edit.onMap).run (.ofComponents
        [("label", .ia5String "a"), ("width", .integer 3), ("height", .integer 2)])).1 =
        [.changed true, .removed (some (.ia5String "a")), .changed false, .changed true,
          .removed (some (.ia5String "b")), .removed none] ∧
      (∀ components, Value.null ≠ .sequence components) ∧
      (relabelling.mapM Edit.onValue).run .null = (relabelling.map Edit.refusal, .null) := by
  have distinct : ([("label", Value.ia5String "a"), ("width", .integer 3),
      ("height", .integer 2)].map Prod.fst).Nodup := by decide
  obtain ⟨replies, after, map, onValue, onMap, _⟩ := (edits_reply_as_map relabelling).1 _ distinct
  refine ⟨distinct, ?_, nofun, ((edits_reply_as_map relabelling).2 .null nofun).1⟩
  rw [onMap]
  exact (congrArg Prod.fst onValue).symm.trans rfl

end Asn1Constraints
