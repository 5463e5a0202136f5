import Asn1Constraints.Proofs.ModelDocuments
import Asn1Constraints.Proofs.ModelSchema
import Mathlib

/-!
Written modules under the schema of model documents. The schema finds no fault
with any of them, however deep they nest: each record has the members it must
have, and of the kinds of node exactly one is the kind that is named.
-/

namespace Asn1Constraints

open Json (Rearranges)

namespace ModelSchema

/-- No fault is found with the document, wherever it stands and however often
references may be followed. -/
def Accepts (schema : Schema) (json : Json) : Prop :=
  ∀ budget pointer, schema.check (document.follow budget) pointer json = []

/-! What the keywords of the rules find at fault. -/

section

variable (follow : Follow) (pointer : String) (json : Json)

/-- A list of keywords has the errors of each, in order. -/
theorem check_keywords (list : List Keyword) :
    (Schema.keywords list).check follow pointer json =
      list.flatMap fun keyword => keyword.check follow pointer json := by
  change checkKeywords follow pointer json list = _
  induction list with
  | nil => rfl
  | cons keyword rest ih =>
      rw [List.flatMap_cons, ← ih]
      rfl

theorem check_type (types : List JsonType) (wholeReals : Bool) :
    (Keyword.type types wholeReals).check follow pointer json =
      errorUnless (types.any (json.hasType wholeReals)) pointer json (.wrongType types) :=
  rfl

theorem check_among (options : List Json) :
    (Keyword.among options).check follow pointer json =
      errorUnless (options.any json.equal) pointer json (.notAmong options) :=
  rfl

theorem check_number (limit : Limit) (bound : Json) :
    (Keyword.number limit bound).check follow pointer json =
      errorUnless (!json.isBeyond bound limit) pointer json (.beyond limit bound) :=
  rfl

theorem check_items (schema : Schema) (items : List Json) :
    (Keyword.items schema).check follow pointer (.array items) =
      checkIndexed (schema.check follow) pointer 0 items :=
  rfl

theorem check_properties (properties : List (String × Schema)) (members : Members) :
    (Keyword.properties properties).check follow pointer (.object members) =
      checkProperties follow pointer members properties :=
  rfl

theorem check_required (names : List String) (members : Members) :
    (Keyword.required names).check follow pointer (.object members) =
      (names.filter fun name => (members.lookup name).isNone).map fun name =>
        ⟨pointer, .object members, .missing (.string name)⟩ :=
  rfl

theorem check_oneOf {branches : List Schema}
    (one : validBranches follow pointer json branches = 1) :
    (Keyword.oneOf branches).check follow pointer json = [] := by
  simp only [Keyword.check, one]

end

theorem refer_accepts {name : String} {schema : Schema} {json : Json}
    (found : definitions.lookup (target name) = some schema) (accepts : Accepts schema json) :
    Accepts (refer name) json := by
  have listed : document.targets.lookup (target name) = some (.ok schema) := by
    rw [document, lookup_mapEntries, found]
    rfl
  intro budget pointer
  change document.follow budget (target name) pointer json = []
  cases budget with
  | zero => rfl
  | succ budget =>
      rw [SchemaDocument.follow, listed]
      exact accepts budget pointer

theorem typed_accepts {type : JsonType} {json : Json} (has : json.hasType true type = true) :
    Accepts (typed type) json := by
  intro budget pointer
  simp [typed, check_keywords, check_type, errorUnless, has]

theorem natural_accepts {n : WholeNumber} (positive : 0 ≤ n.val) :
    Accepts natural (.integer n) := by
  have atLeast : (Json.integer n).isBelow (.ofReal Binary64.zero) = false := by
    obtain ⟨scale, zero⟩ : ∃ scale, (Json.ofReal Binary64.zero).quotient? = some (0, scale) :=
      ⟨_, rfl⟩
    have scaled : 0 ≤ n.val * (scale : Int) := by positivity
    rw [Json.isBelow, zero]
    simpa [Json.quotient?] using scaled
  intro budget pointer
  simp [natural, check_keywords, check_number, check_type, errorUnless, Json.isBeyond, atLeast,
    Json.hasType]

theorem named_check (name text : String) (follow : Follow) (pointer : String) :
    (named name).check follow pointer (.string text) = [] ↔ text = name := by
  simp [named, check_keywords, check_among, check_type, errorUnless, Json.hasType, Json.equal,
    Json.equalBy]

theorem checkIndexed_nil {check : String → Json → List SchemaError} {items : List Json}
    (each : ∀ item ∈ items, ∀ pointer, check pointer item = []) (pointer : String) (index : ℕ) :
    checkIndexed check pointer index items = [] := by
  induction items generalizing index with
  | nil => rfl
  | cons item rest ih =>
      obtain ⟨own, others⟩ := List.forall_mem_cons.mp each
      rw [checkIndexed, own, ih others, List.append_nil]

theorem listOf_accepts {schema : Schema} {items : List Json}
    (each : ∀ item ∈ items, Accepts schema item) : Accepts (listOf schema) (.array items) := by
  intro budget pointer
  have inside := checkIndexed_nil (fun item member place => each item member budget place) pointer 0
  simp [listOf, check_keywords, check_items, check_type, errorUnless, Json.hasType, inside]

theorem checkProperties_nil {follow : Follow} {pointer : String} {members : Members}
    {properties : List (String × Schema)}
    (each : ∀ entry ∈ properties, ∀ json, members.lookup entry.1 = some json →
      ∀ pointer, entry.2.check follow pointer json = []) :
    checkProperties follow pointer members properties = [] := by
  induction properties with
  | nil => rfl
  | cons entry rest ih =>
      obtain ⟨own, others⟩ := List.forall_mem_cons.mp each
      rw [checkProperties, ih others, List.append_nil]
      cases found : members.lookup entry.1 with
      | none => rfl
      | some json => exact own json found _

section

variable {arrange : Json → Json} {written met : Members}

/-- A record is accepted for the members it must have and those it describes. -/
theorem record_accepts (meets : written.Meets arrange met) {required : List String}
    {properties : List (String × Schema)}
    (present : ∀ name ∈ required, name ∈ written.map (·.1))
    (each : ∀ entry ∈ properties, ∀ json, written.lookup entry.1 = some json →
      Accepts entry.2 (arrange json)) : Accepts (record required properties) (.object met) := by
  intro budget pointer
  have described : checkProperties (document.follow budget) pointer met properties = [] :=
    checkProperties_nil fun entry member json found => by
      rw [meets.lookup] at found
      obtain ⟨source, shown, rfl⟩ := Option.map_eq_some_iff.mp found
      exact each entry member source shown budget
  have none : required.filter (fun name => (met.lookup name).isNone) = [] := by
    refine List.filter_eq_nil_iff.mpr fun name member => ?_
    have found : written.lookup name ≠ none := fun missing =>
      (lookup_eq_none_iff_absent _ _).mp missing (present name member)
    simpa [meets.lookup] using found
  simp [record, check_keywords, check_properties, check_required, check_type, errorUnless,
    Json.hasType, described, none]

/-! Kinds. -/

theorem kindRule_kind (kind : String) : ("kind", named kind) ∈ (kindRule kind).properties := by
  unfold kindRule
  split <;> simp

/-- A rule for a kind leaves ids alone, and of the member that holds the kind it
says which kind that is. -/
theorem kindRule_properties (kind : String) :
    ∀ entry ∈ (kindRule kind).properties,
      entry.1 ≠ "id" ∧ (entry.1 = "kind" → entry.2 = named kind) := by
  unfold kindRule
  split <;> simp

theorem checkProperties_ne_nil (follow : Follow) {members : Members} {name : String} {json : Json}
    {schema : Schema} {properties : List (String × Schema)}
    (described : (name, schema) ∈ properties) (found : members.lookup name = some json)
    (refused : ∀ pointer, schema.check follow pointer json ≠ []) (pointer : String) :
    checkProperties follow pointer members properties ≠ [] := by
  induction properties with
  | nil => cases described
  | cons entry rest ih =>
      rw [checkProperties]
      rcases List.mem_cons.mp described with rfl | later
      · rw [found]
        exact List.append_ne_nil_of_left_ne_nil (refused _) _
      · exact List.append_ne_nil_of_right_ne_nil _ (ih later)

/-- A node of another kind is refused for its kind. -/
theorem kind_refused {kind label : String} (other : label ≠ kind)
    (found : met.lookup "kind" = some (.string label)) (follow : Follow) (pointer : String) :
    (kindSchema kind).check follow pointer (.object met) ≠ [] := by
  have wrong := checkProperties_ne_nil follow (kindRule_kind kind) found
    (fun place same => other ((named_check kind label follow place).mp same)) pointer
  exact List.append_ne_nil_of_left_ne_nil wrong _

theorem validBranches_countP (kinds : List String) (accepted : String → Bool) (follow : Follow)
    (pointer : String) (json : Json)
    (each : ∀ kind, ((kindSchema kind).check follow pointer json).isEmpty = accepted kind) :
    validBranches follow pointer json (kinds.map kindSchema) = kinds.countP accepted := by
  induction kinds with
  | nil => rfl
  | cons kind rest ih =>
      rw [List.map_cons, validBranches, each, ih, List.countP_cons, Nat.add_comm]

/-- Of the kinds exactly one is that of the node. -/
theorem node_accepts {label : String} (known : label ∈ kindNames)
    (kind : met.lookup "kind" = some (.string label))
    (id : ∀ json, met.lookup "id" = some json → Accepts natural json)
    (accepted : Accepts (kindSchema label) (.object met)) : Accepts node (.object met) := by
  intro budget pointer
  -- A branch passes if and only if its kind is the one named, and kinds are named once.
  have told : ∀ other, ((kindSchema other).check (document.follow budget) pointer
      (.object met)).isEmpty = (other == label) := by
    intro other
    by_cases same : other = label
    · rw [same, accepted budget pointer, beq_self_eq_true, List.isEmpty_nil]
    · have refused := kind_refused (Ne.symm same) kind (document.follow budget) pointer
      rw [List.isEmpty_eq_false_iff.mpr refused, beq_eq_false_iff_ne.mpr same]
  have one : validBranches (document.follow budget) pointer (.object met)
      (kindNames.map kindSchema) = 1 := by
    rw [validBranches_countP kindNames (· == label) _ _ _ told, ← List.count_eq_countP]
    exact List.count_eq_one_of_mem (by decide) known
  have described : checkProperties (document.follow budget) pointer met [("id", natural)] = [] :=
    checkProperties_nil (by simpa using fun json found => id json found budget)
  simp [node, check_keywords, check_oneOf _ _ _ one, check_properties, check_type, errorUnless,
    Json.hasType, described]

end

/-! Written documents. -/

section

variable {arrange : Json → Json} (rearranges : Rearranges arrange)

include rearranges

theorem string_accepts (text : String) : Accepts (typed .string) (arrange (.string text)) := by
  rw [rearranges.scalar _ rfl]
  exact typed_accepts rfl

theorem int64_accepts (n : Int64) : Accepts (typed .integer) (arrange (.ofInt64 n)) := by
  rw [rearranges.scalar _ rfl]
  exact typed_accepts rfl

theorem uint64_accepts (n : UInt64) : Accepts natural (arrange (.ofUInt64 n)) := by
  rw [rearranges.scalar _ rfl]
  exact natural_accepts (Int.natCast_nonneg _)

theorem uint32_accepts (n : UInt32) : Accepts natural (arrange (.ofUInt32 n)) := by
  rw [rearranges.scalar _ rfl]
  exact natural_accepts (Int.natCast_nonneg _)

theorem real_accepts (x : Binary64) (finite : x.isFinite = true) :
    Accepts (typed .number) (arrange (.ofReal x)) := by
  have written : Json.ofReal x = .real ⟨x, finite⟩ := by
    rw [Json.ofReal, Json.ofReal?, dif_pos finite]
    rfl
  rw [written, rearranges.scalar _ rfl]
  exact typed_accepts rfl

theorem named_accepts (name : String) : Accepts (named name) (arrange (.string name)) := by
  rw [rearranges.scalar _ rfl]
  exact fun budget pointer => (named_check name name _ pointer).mpr rfl

theorem list_accepts {α : Type} (write : α → Json) {schema : Schema} (values : List α)
    (each : ∀ value ∈ values, Accepts schema (arrange (write value))) :
    Accepts (listOf schema) (arrange (.array (values.map write))) := by
  rw [rearranges.array, List.map_map]
  refine listOf_accepts fun item member => ?_
  obtain ⟨value, inside, rfl⟩ := List.mem_map.mp member
  exact each value inside

/-- A record whose members are all described, in the order of the description or another. -/
theorem object_accepts {written : Members} (distinct : (written.map (·.1)).Nodup)
    {required : List String} {properties : List (String × Schema)}
    (present : ∀ name ∈ required, name ∈ written.map (·.1))
    (each : ∀ entry ∈ properties, ∀ json, written.lookup entry.1 = some json →
      Accepts entry.2 (arrange json)) :
    Accepts (record required properties) (arrange (.object written)) := by
  obtain ⟨met, arranged, meets⟩ := rearranges.object written distinct
  rw [arranged]
  exact record_accepts meets present each

theorem item_accepts (item : EnumItem) : Accepts (refer "EnumItem") (arrange item.toJson) := by
  have found : definitions.lookup (target "EnumItem") = some ModelSchema.item := rfl
  refine refer_accepts found (object_accepts rearranges ?_ ?_ ?_)
  · simp
  · simp
  · simp [List.lookup, string_accepts rearranges, int64_accepts rearranges]

/-- A component or an alternative, given its type. -/
theorem component_accepts (component : Component TypeNode)
    (accepted : Accepts (refer "TypeNode") (arrange component.type.toJson)) :
    Accepts (refer "Field") (arrange component.toJson) := by
  obtain ⟨name, optional, type⟩ := component
  have found : definitions.lookup (target "Field") = some ModelSchema.component := rfl
  refine refer_accepts found (object_accepts rearranges ?_ ?_ ?_)
  · cases optional <;> simp [optionalMember]
  · simp
  · have flag : Accepts (typed .boolean) (arrange (.boolean true)) := by
      rw [rearranges.scalar _ rfl]
      exact typed_accepts rfl
    cases optional <;>
      simp [optionalMember, List.lookup, string_accepts rearranges, accepted, flag]

theorem namedType_accepts (name : String) (type : TypeNode)
    (accepted : Accepts (refer "TypeNode") (arrange type.toJson)) :
    Accepts namedType (arrange (.object (namedMembers name type))) := by
  refine object_accepts rearranges ?_ ?_ ?_
  · simp [namedMembers]
  · simp [namedMembers]
  · simp [namedMembers, List.lookup, string_accepts rearranges, accepted]

variable {met : Members}

/-- A node is accepted by the rule for its kind, which its parts have to meet. -/
theorem kind_accepts {n : TypeNode} (meets : n.members.Meets arrange met)
    (present : ∀ name ∈ (kindRule n.label).required,
      name = "kind" ∨ name ∈ n.partMembers.map (·.1))
    (each : ∀ entry ∈ (kindRule n.label).properties, ∀ json,
      n.partMembers.lookup entry.1 = some json → Accepts entry.2 (arrange json)) :
    Accepts node (.object met) := by
  have kind : met.lookup "kind" = some (.string n.label) := by
    rw [meets.lookup, n.lookup_kind, Option.map_some, rearranges.scalar _ rfl]
  have id : ∀ json, met.lookup "id" = some json → Accepts natural json := by
    intro json found
    rw [meets.lookup, n.lookup_id] at found
    split at found
    · cases found
    · cases found
      exact uint32_accepts rearranges n.id
  refine node_accepts n.label_known kind id (record_accepts meets ?_ ?_)
  · intro name isRequired
    rcases present name isRequired with rfl | part
    · simp [TypeNode.members]
    · simp [TypeNode.members, List.mem_map.mp part]
  -- The kind is described by its one name, any other member by the rule of the kind.
  · intro entry described json found
    obtain ⟨noId, isKind⟩ := kindRule_properties n.label entry described
    by_cases atKind : entry.1 = "kind"
    · rw [atKind, n.lookup_kind] at found
      obtain rfl := Option.some.inj found
      rw [isKind atKind]
      exact named_accepts rearranges n.label
    · rw [n.lookup_part noId atKind] at found
      exact each entry described json found

theorem shaped_accepts {id : ConstraintId} {shape : Shape TypeNode}
    (finite : (TypeNode.shaped id shape).FiniteReals)
    (meets : (TypeNode.shaped id shape).members.Meets arrange met)
    (each : ∀ part ∈ shape.parts, Accepts (refer "TypeNode") (arrange part.toJson)) :
    Accepts node (.object met) := by
  refine kind_accepts rearranges meets ?_ ?_
  -- What a rule asks for is there, whatever the bounds and the parts.
  · cases shape <;> simp [TypeNode.label, Shape.label, kindRule, TypeNode.partMembers,
      shapeMembers, SizeBounds.members]
  · have numbers := int64_accepts rearranges
    have sizes := uint64_accepts rearranges
    rw [TypeNode.label, TypeNode.partMembers]
    cases shape with
    | integer bounds =>
        simp [Shape.label, kindRule, shapeMembers, IntegerBounds.members, List.lookup, numbers]
    | real bounds =>
        obtain ⟨low, high⟩ := finite id bounds (TypeNode.self_mem_nodes _)
        simp [Shape.label, kindRule, shapeMembers, RealBounds.members, List.lookup,
          real_accepts rearranges _ low, real_accepts rearranges _ high]
    | boolean => simp [shapeMembers]
    | null => simp [shapeMembers]
    | enumerated items =>
        have listed := list_accepts rearranges EnumItem.toJson items
          fun item _ => item_accepts rearranges item
        simp [Shape.label, kindRule, shapeMembers, List.lookup, listed]
    | sequenceOf size element =>
        have inside := each element List.mem_cons_self
        simp [Shape.label, kindRule, shapeMembers, SizeBounds.members, List.lookup, sizes, inside]
    | sequence components =>
        have listed := list_accepts rearranges Component.toJson components
          fun component member =>
            component_accepts rearranges component (each _ (List.mem_map_of_mem member))
        simp [Shape.label, kindRule, shapeMembers, List.lookup, componentsJson_map, listed]
    | choice alternatives =>
        have found : definitions.lookup (target "Alternative") = some namedType := rfl
        have listed := list_accepts rearranges Alternative.toJson alternatives
          fun alternative member => refer_accepts found (namedType_accepts rearranges
            alternative.name alternative.type (each _ (List.mem_map_of_mem member)))
        simp [Shape.label, kindRule, shapeMembers, List.lookup, alternativesJson_map, listed]
    | _ =>
        simp [Shape.label, kindRule, shapeMembers, SizeBounds.members, List.lookup, sizes]

/-- What is behind a node is a node, so the schema follows it down to the leaves. -/
theorem typeNode_accepts (n : TypeNode) (finite : n.FiniteReals) :
    Accepts (refer "TypeNode") (arrange n.toJson) := by
  have found : definitions.lookup (target "TypeNode") = some node := rfl
  refine refer_accepts found ?_
  induction n using TypeNode.partsInduction with
  | reference id target =>
      obtain ⟨met, arranged, meets⟩ :=
        rearranges.object _ (TypeNode.reference id target).members_nodup
      rw [TypeNode.toJson_eq, arranged]
      refine kind_accepts rearranges meets ?_ ?_
      · simp [TypeNode.label, kindRule, TypeNode.partMembers]
      · simp [TypeNode.label, kindRule, TypeNode.partMembers, List.lookup,
          string_accepts rearranges]
  | shaped id shape ih =>
      obtain ⟨met, arranged, meets⟩ := rearranges.object _ (TypeNode.shaped id shape).members_nodup
      rw [TypeNode.toJson_eq, arranged]
      exact shaped_accepts rearranges finite meets fun part isPart =>
        refer_accepts found (ih part isPart (finite.part isPart))

/-- The schema of model documents accepts every written module. -/
theorem module_accepts (m : TypeModule) (finite : m.FiniteReals) :
    Accepts module (arrange m.toJson) := by
  have found : definitions.lookup (target "TypeAssignment") = some namedType := rfl
  have types := list_accepts rearranges TypeAssignment.toJson m.types
    fun assignment declared => refer_accepts found (namedType_accepts rearranges assignment.name
      assignment.type (typeNode_accepts rearranges assignment.type (finite.type declared)))
  refine object_accepts rearranges ?_ ?_ ?_
  · simp
  · simp
  · simp [List.lookup, string_accepts rearranges, types]

end

end ModelSchema

end Asn1Constraints
