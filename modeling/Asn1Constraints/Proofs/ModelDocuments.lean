import Asn1Constraints.Proofs.AskedQuestions
import Asn1Constraints.Proofs.Nodes
import Asn1Constraints.Proofs.WrittenRecords
import Asn1Constraints.TypeModel.Document
import Mathlib

/-!
Modules written and read back. A node leaves out an id of zero and a component
that it is not optional, and both come back from their absence; everything else
is written as it is. Where the members of a document are met does not matter.
-/

namespace Asn1Constraints

open Json (Rearranges)

/-! Records. -/

/-- A name with a type: an assignment, or an alternative. -/
def namedMembers (name : String) (type : TypeNode) : Members :=
  [("name", .string name), ("type", type.toJson)]

theorem type_mem_named (name : String) (type : TypeNode) :
    ("type", type.toJson) ∈ namedMembers name type := by
  simp [namedMembers]

def TypeModule.members (module : TypeModule) : Members :=
  [("module_version", .string module.version), ("name", .string module.name),
    ("types", .array (module.types.map TypeAssignment.toJson))]

theorem TypeModule.types_mem_members (module : TypeModule) :
    ("types", Json.array (module.types.map TypeAssignment.toJson)) ∈ module.members := by
  simp [members]

theorem lookup_idMember (id : ConstraintId) (rest : Members) {name : String}
    (other : name ≠ "id") : (idMember id ++ rest).lookup name = rest.lookup name := by
  unfold idMember
  split
  · rfl
  · rw [List.singleton_append, lookup_cons_if, if_neg other]

theorem componentsJson_map (components : List (Component TypeNode)) :
    componentsJson components = components.map Component.toJson := by
  induction components with
  | nil => rfl
  | cons component rest ih => rw [componentsJson, ih]; rfl

theorem alternativesJson_map (alternatives : List (Alternative TypeNode)) :
    alternativesJson alternatives = alternatives.map Alternative.toJson := by
  induction alternatives with
  | nil => rfl
  | cons alternative rest ih => rw [alternativesJson, ih]; rfl

namespace TypeNode

/-- What follows the id and the kind. -/
def partMembers : TypeNode → Members
  | .reference _ target => [("target", .string target)]
  | .shaped _ shape => shapeMembers shape

def members (node : TypeNode) : Members :=
  idMember node.id ++ ("kind", .string node.label) :: node.partMembers

theorem toJson_eq (node : TypeNode) : node.toJson = .object node.members := by
  cases node <;> rfl

theorem partMembers_names (node : TypeNode) :
    (("id" :: "kind" :: node.partMembers.map (·.1))).Nodup := by
  cases node with
  | reference id target => simp [partMembers]
  | shaped id shape =>
      cases shape <;> simp [partMembers, shapeMembers, IntegerBounds.members, RealBounds.members,
        SizeBounds.members]

theorem members_nodup (node : TypeNode) : (node.members.map (·.1)).Nodup := by
  have distinct := node.partMembers_names
  rw [members, List.map_append, List.map_cons]
  unfold idMember
  split
  · exact distinct.of_cons
  · exact distinct

theorem lookup_kind (node : TypeNode) :
    node.members.lookup "kind" = some (.string node.label) := by
  rw [members, lookup_idMember _ _ (by decide), lookup_cons_if, if_pos rfl]

theorem lookup_part (node : TypeNode) {name : String} (noId : name ≠ "id")
    (noKind : name ≠ "kind") : node.members.lookup name = node.partMembers.lookup name := by
  rw [members, lookup_idMember _ _ noId, lookup_cons_if, if_neg noKind]

theorem lookup_id (node : TypeNode) :
    node.members.lookup "id" = if node.id = 0 then none else some (.ofUInt32 node.id) := by
  rw [members, idMember]
  split
  · have absent := (List.nodup_cons.mp node.partMembers_names).1
    rw [List.nil_append]
    exact (lookup_eq_none_iff_absent _ _).mpr absent
  · rfl

theorem label_known (node : TypeNode) : node.label ∈ kindNames := by
  cases node with
  | reference id target => simp [label, kindNames]
  | shaped id shape => cases shape <;> simp [label, Shape.label, kindNames]

end TypeNode

/-! Reading, in whatever order the members are met. -/

section

variable {arrange : Json → Json} (rearranges : Rearranges arrange)

include rearranges

theorem EnumItem.back (item : EnumItem) : EnumItem.ofJson (arrange item.toJson) = .ok item := by
  obtain ⟨met, arranged, meets⟩ := rearranges.object
    [("name", .string item.name), ("value", .ofInt64 item.value)] (by simp)
  rw [toJson, arranged, ofJson, ofMembers, meets.present rfl (rearranges.string_back _),
    meets.present rfl (rearranges.int64_back _)]
  rfl

theorem IntegerBounds.members_back (bounds : IntegerBounds) {written met : Members}
    (meets : written.Meets arrange met)
    (least : written.lookup "min" = some (.ofInt64 bounds.min))
    (greatest : written.lookup "max" = some (.ofInt64 bounds.max)) :
    IntegerBounds.ofMembers met = .ok bounds := by
  rw [IntegerBounds.ofMembers, meets.present greatest (rearranges.int64_back _),
    meets.present least (rearranges.int64_back _)]
  rfl

theorem RealBounds.members_back (bounds : RealBounds) {written met : Members}
    (meets : written.Meets arrange met) (low : bounds.min.isFinite = true)
    (high : bounds.max.isFinite = true)
    (least : written.lookup "min" = some (.ofReal bounds.min))
    (greatest : written.lookup "max" = some (.ofReal bounds.max)) :
    RealBounds.ofMembers met = .ok bounds := by
  rw [RealBounds.ofMembers, meets.present greatest (rearranges.real_back _ high),
    meets.present least (rearranges.real_back _ low)]
  rfl

theorem TypeNode.listed_back {α : Type} {written met : Members} (meets : written.Meets arrange met)
    {name : String} {reader : Json → Except Fault α} {write : α → Json} {values : List α}
    (found : written.lookup name = some (.array (values.map write)))
    (each : ∀ value ∈ values, reader (arrange (write value)) = .ok value) :
    listOfMembers met name reader = .ok values := by
  rw [listOfMembers, meets.present found (rearranges.list_back values each)]
  rfl

section

variable {reader : Json → Except Fault TypeNode}

/-- A component is read if its type is, and an absent flag is a false one. -/
theorem Component.back (component : Component TypeNode)
    (typeBack : (arrange component.type.toJson).depth < (arrange component.toJson).depth →
      reader (arrange component.type.toJson) = .ok component.type) :
    Component.ofJson reader (arrange component.toJson) = .ok component := by
  obtain ⟨name, optional, type⟩ := component
  obtain ⟨met, arranged, meets⟩ := rearranges.object
    (("name", .string name) :: (optionalMember optional ++ [("type", type.toJson)]))
    (by cases optional <;> simp [optionalMember])
  have found : (("name", Json.string name) :: (optionalMember optional ++
      [("type", type.toJson)])).lookup "type" = some type.toJson := by
    cases optional <;> rfl
  have flag : Members.optional? met "optional" Json.readBoolean =
      .ok (if optional then some true else none) := by
    cases optional with
    | false => exact meets.absent rfl _
    | true => exact meets.present rfl (rearranges.boolean_back true)
  have written : arrange (Component.toJson ⟨name, optional, type⟩) = .object met := arranged
  rw [written] at typeBack ⊢
  have typed := typeBack (Nat.lt_succ_of_le (meets.depth_le found))
  rw [ofJson, ofMembers, meets.present rfl (rearranges.string_back _), flag,
    meets.present found typed]
  cases optional <;> rfl

theorem Alternative.back (alternative : Alternative TypeNode)
    (typeBack : (arrange alternative.type.toJson).depth < (arrange alternative.toJson).depth →
      reader (arrange alternative.type.toJson) = .ok alternative.type) :
    Alternative.ofJson reader (arrange alternative.toJson) = .ok alternative := by
  obtain ⟨met, arranged, meets⟩ := rearranges.object
    (namedMembers alternative.name alternative.type) (by simp [namedMembers])
  have written : arrange alternative.toJson = .object met := arranged
  rw [written] at typeBack ⊢
  have found : (namedMembers alternative.name alternative.type).lookup "type" =
      some alternative.type.toJson := rfl
  have typed := typeBack (Nat.lt_succ_of_le (meets.depth_le found))
  rw [ofJson, ofMembers, meets.present rfl (rearranges.string_back _), meets.present found typed]
  rfl

end

namespace TypeNode

variable {node : TypeNode} {met : Members} {reader : Json → Except Fault TypeNode}

/-- The id and the kind are read first, and the parts by the kind. -/
theorem head_back (meets : node.members.Meets arrange met) :
    ofMembers reader met = ofParts reader node.id node.label met := by
  have id : met.optional? "id" Json.readUInt32 =
      .ok (if node.id = 0 then none else some node.id) := by
    by_cases zero : node.id = 0
    · rw [if_pos zero]
      exact meets.absent (by rw [lookup_id, if_pos zero]) _
    · rw [if_neg zero]
      exact meets.present (by rw [lookup_id, if_neg zero]) (rearranges.uint32_back _)
  rw [ofMembers, id, meets.present node.lookup_kind (rearranges.name_back node.label_known)]
  by_cases zero : node.id = 0
  · simp [zero, required, bind, Except.bind]
  · simp [zero, required, bind, Except.bind]

/-- Every limit of a real below the node is a number that a document can hold. -/
def FiniteReals (node : TypeNode) : Prop :=
  ∀ id bounds, .shaped id (.real bounds) ∈ node.nodes →
    bounds.min.isFinite = true ∧ bounds.max.isFinite = true

omit rearranges in
theorem FiniteReals.part {id : ConstraintId} {shape : Shape TypeNode}
    (finite : (shaped id shape).FiniteReals) {part : TypeNode} (isPart : part ∈ shape.parts) :
    part.FiniteReals :=
  fun inner bounds member => finite inner bounds
    (nodes_trans _ _ (part_mem_nodes id shape part isPart) _ member)

theorem size_back {id : ConstraintId} {shape : Shape TypeNode} {size : SizeBounds}
    (meets : (shaped id shape).members.Meets arrange met)
    (held : shapeMembers shape = size.members) : SizeBounds.ofMembers met = .ok size := by
  have found : ∀ {name json}, name ≠ "id" → name ≠ "kind" → size.members.lookup name = some json →
      (shaped id shape).members.lookup name = some json := by
    intro name json noId noKind found
    rw [lookup_part _ noId noKind, partMembers, held, found]
  exact size.members_back rearranges meets (found (by decide) (by decide) rfl)
    (found (by decide) (by decide) rfl)

/-- The parts are read where the members of their node are met. -/
theorem parts_back {id : ConstraintId} {shape : Shape TypeNode}
    (finite : (shaped id shape).FiniteReals)
    (meets : (shaped id shape).members.Meets arrange met)
    (each : ∀ part ∈ shape.parts, (arrange part.toJson).depth ≤ Json.membersDepth met →
      reader (arrange part.toJson) = .ok part) :
    ofParts reader id shape.label met = .ok (shaped id shape) := by
  have part : ∀ {name : String} {json : Json}, name ≠ "id" → name ≠ "kind" →
      (shapeMembers shape).lookup name = some json →
        (shaped id shape).members.lookup name = some json :=
    fun noId noKind found => (lookup_part _ noId noKind).trans found
  cases shape with
  | integer bounds =>
      rw [Shape.label, ofParts, bounds.members_back rearranges meets
        (part (by decide) (by decide) rfl) (part (by decide) (by decide) rfl)]
      rfl
  | real bounds =>
      obtain ⟨low, high⟩ := finite id bounds (self_mem_nodes _)
      rw [Shape.label, ofParts, bounds.members_back rearranges meets low high
        (part (by decide) (by decide) rfl) (part (by decide) (by decide) rfl)]
      rfl
  | boolean => rfl
  | null => rfl
  | enumerated items =>
      rw [Shape.label, ofParts, listed_back rearranges meets (part (by decide) (by decide) rfl)
        fun item _ => item.back rearranges]
      rfl
  | octetString size =>
      rw [Shape.label, ofParts, size_back rearranges meets rfl]
      rfl
  | bitString size =>
      rw [Shape.label, ofParts, size_back rearranges meets rfl]
      rfl
  | ia5String size =>
      rw [Shape.label, ofParts, size_back rearranges meets rfl]
      rfl
  -- Parts that are nodes stand inside the members, so the levels left suffice for them.
  | sequenceOf size element =>
      have found : (shaped id (.sequenceOf size element)).members.lookup "element" =
          some element.toJson := part (by decide) (by decide) rfl
      have back := each element List.mem_cons_self (meets.depth_le found)
      rw [Shape.label, ofParts, elementOfMembers, meets.present found back,
        meets.present (part (by decide) (by decide) rfl) (rearranges.uint64_back size.maxSize),
        meets.present (part (by decide) (by decide) rfl) (rearranges.uint64_back size.minSize)]
      rfl
  | sequence components =>
      have found : (shaped id (.sequence components)).members.lookup "fields" =
          some (.array (components.map Component.toJson)) :=
        part (by decide) (by decide) (by rw [shapeMembers, componentsJson_map]; rfl)
      have below := meets.depth_le found
      rw [Shape.label, ofParts, listed_back rearranges meets found fun component member =>
        component.back rearranges fun deeper => each component.type (List.mem_map_of_mem member)
          (deeper.le.trans ((rearranges.item_depth_lt member).le.trans below))]
      rfl
  | choice alternatives =>
      have found : (shaped id (.choice alternatives)).members.lookup "alternatives" =
          some (.array (alternatives.map Alternative.toJson)) :=
        part (by decide) (by decide) (by rw [shapeMembers, alternativesJson_map]; rfl)
      have below := meets.depth_le found
      rw [Shape.label, ofParts, listed_back rearranges meets found fun alternative member =>
        alternative.back rearranges fun deeper => each alternative.type (List.mem_map_of_mem member)
          (deeper.le.trans ((rearranges.item_depth_lt member).le.trans below))]
      rfl

theorem target_back {id : ConstraintId} {target : String}
    (meets : (reference id target).members.Meets arrange met) :
    ofParts reader id "reference" met = .ok (reference id target) := by
  have found : (reference id target).members.lookup "target" = some (.string target) :=
    lookup_part _ (by decide) (by decide)
  change (do
    let name ← met.optional? "target" Json.readString
    return reference id (← required "target" name)) = _
  rw [meets.present found (rearranges.string_back target)]
  rfl

/-- The members of a node are read with one level less than the node. -/
theorem back_of_members {levels : ℕ} (enough : (arrange node.toJson).depth ≤ levels)
    (each : ∀ met fewer, node.members.Meets arrange met → Json.membersDepth met ≤ fewer →
      ofMembers (ofJsonWithin fewer) met = .ok node) :
    ofJsonWithin levels (arrange node.toJson) = .ok node := by
  obtain ⟨met, arranged, meets⟩ := rearranges.object _ node.members_nodup
  have written : arrange node.toJson = .object met := by rw [toJson_eq, arranged]
  rw [written] at enough ⊢
  cases levels with
  | zero => cases enough
  | succ levels => exact each met levels meets (Nat.le_of_succ_le_succ enough)

/-- A written node is read back with any levels that hold it. -/
theorem back (node : TypeNode) (finite : node.FiniteReals) :
    ∀ levels, (arrange node.toJson).depth ≤ levels →
      ofJsonWithin levels (arrange node.toJson) = .ok node := by
  induction node using partsInduction with
  | reference id target =>
      intro levels enough
      refine back_of_members rearranges enough fun met fewer meets _ => ?_
      rw [head_back rearranges meets]
      exact target_back rearranges meets
  | shaped id shape ih =>
      intro levels enough
      refine back_of_members rearranges enough fun met fewer meets inside => ?_
      rw [head_back rearranges meets]
      exact parts_back rearranges finite meets fun part isPart shallow =>
        ih part isPart (finite.part isPart) fewer (shallow.trans inside)

end TypeNode

theorem TypeAssignment.back (assignment : TypeAssignment) (finite : assignment.type.FiniteReals) :
    TypeAssignment.ofJson (arrange assignment.toJson) = .ok assignment := by
  obtain ⟨met, arranged, meets⟩ := rearranges.object
    (namedMembers assignment.name assignment.type) (by simp [namedMembers])
  have written : arrange assignment.toJson = .object met := arranged
  have typed : TypeNode.ofJson (arrange assignment.type.toJson) = .ok assignment.type :=
    assignment.type.back rearranges finite _ (Nat.le_refl _)
  rw [written, ofJson, ofMembers, meets.present rfl (rearranges.string_back _),
    meets.present rfl typed]
  rfl

omit rearranges in
theorem TypeModule.FiniteReals.type {module : TypeModule} (finite : module.FiniteReals)
    {assignment : TypeAssignment} (declared : assignment ∈ module.types) :
    assignment.type.FiniteReals :=
  fun id bounds member => finite id bounds (List.mem_flatMap.mpr ⟨assignment, declared, member⟩)

/-- Written modules are read back, whatever order their members are met in. -/
theorem TypeModule.back (module : TypeModule) (finite : module.FiniteReals) :
    TypeModule.ofJson (arrange module.toJson) = .ok module := by
  obtain ⟨met, arranged, meets⟩ := rearranges.object module.members (by simp [members])
  have written : arrange module.toJson = .object met := arranged
  have types := rearranges.list_back module.types fun assignment declared =>
    assignment.back rearranges (finite.type declared)
  rw [written, ofJson, ofMembers, meets.present rfl (rearranges.string_back _),
    meets.present rfl (rearranges.string_back _), meets.present rfl types]
  rfl

end

end Asn1Constraints
