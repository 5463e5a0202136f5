import Asn1Constraints.JsonSchema.Library
import Asn1Constraints.Proofs.ModelDocuments
import Asn1Constraints.Proofs.NodePlaces
import Asn1Constraints.Proofs.PrintedDocuments
import Mathlib

/-!
Pointers into documents. A pointer is read token by token, a token being the name
of a member or the number of an item. The way to a node of a module has a pointer
of its own, and in the document written for the module, as in the one read from
its text, the pointer leads to what is written for the node.
-/

namespace Asn1Constraints

open Json (Rearranges)

namespace Json

/-- The part of a document that the tokens lead to. -/
def followed? (json : Json) : List (List Char) → Option Json
  | [] => some json
  | token :: rest => (SchemaLibrary.step? token json).bind (·.followed? rest)

/-- The part of a document that a pointer leads to. The empty pointer leads to the
document, any other one starts with a slash. -/
def pointed? (pointer : String) (json : Json) : Option Json :=
  match Text.pieces (· == '/') pointer.toList with
  | [[]] => some json
  | [] :: tokens => json.followed? tokens
  | _ => none

theorem followed?_append (json : Json) (tokens others : List (List Char)) :
    json.followed? (tokens ++ others) = (json.followed? tokens).bind (·.followed? others) := by
  induction tokens generalizing json with
  | nil => rfl
  | cons token rest ih =>
      rw [List.cons_append, followed?, followed?, Option.bind_assoc]
      congr 1
      funext part
      exact ih part

end Json

/-! Texts of pointers. -/

/-- A token without the characters that pointers give a meaning. -/
def PlainToken (token : String) : Prop := '/' ∉ token.toList ∧ '~' ∉ token.toList

theorem memberName_plain {chars : List Char} (plain : '~' ∉ chars) :
    SchemaLibrary.memberName chars = chars := by
  induction chars with
  | nil => rfl
  | cons c rest ih =>
      have first : c ≠ '~' := fun same => plain (same ▸ List.mem_cons_self)
      have others := ih fun member => plain (List.mem_cons_of_mem c member)
      rw [SchemaLibrary.memberName, others]
      all_goals
        intro more same
        exact absurd same first

def pointerText (tokens : List String) : String := String.join (tokens.map ("/" ++ ·))

theorem pointerText_append (tokens others : List String) :
    pointerText (tokens ++ others) = pointerText tokens ++ pointerText others := by
  simp [pointerText]

theorem pieces_run {isMark : Char → Bool} {run : List Char} (unmarked : ∀ c ∈ run, isMark c = false)
    {rest piece : List Char} {others : List (List Char)}
    (split : Text.pieces isMark rest = piece :: others) :
    Text.pieces isMark (run ++ rest) = (run ++ piece) :: others := by
  induction run with
  | nil => exact split
  | cons c run ih =>
      obtain ⟨first, later⟩ := List.forall_mem_cons.mp unmarked
      rw [List.cons_append, Text.pieces, ih later]
      simp [first]

theorem pieces_pointerText (tokens : List String) (plain : ∀ token ∈ tokens, PlainToken token) :
    Text.pieces (· == '/') (pointerText tokens).toList = [] :: tokens.map String.toList := by
  induction tokens with
  | nil => rfl
  | cons token rest ih =>
      have parts := List.forall_mem_cons.mp plain
      have unmarked : ∀ c ∈ token.toList, (c == '/') = false := by
        intro c member
        have apart : c ≠ '/' := fun same => parts.1.1 (same ▸ member)
        simpa using apart
      have text : (pointerText (token :: rest)).toList =
          '/' :: (token.toList ++ (pointerText rest).toList) := by
        simp [pointerText, String.toList_join]
      rw [text, Text.pieces, pieces_run unmarked (ih parts.2)]
      simp

theorem pointed?_pointerText (json : Json) (tokens : List String)
    (plain : ∀ token ∈ tokens, PlainToken token) :
    json.pointed? (pointerText tokens) = json.followed? (tokens.map String.toList) := by
  rw [Json.pointed?, pieces_pointerText tokens plain]
  cases tokens <;> rfl

/-! Tokens of members and of items. -/

theorem index_toList_digits (index : ℕ) : (toString index).toList = Nat.toDigits 10 index := by
  simp

theorem index_plain (index : ℕ) : PlainToken (toString index) := by
  have digits := Json.toDigits_isDigit index
  rw [← index_toList_digits] at digits
  constructor
  · intro member
    cases digits '/' member
  · intro member
    cases digits '~' member

theorem itemNumber?_index (index : ℕ) :
    SchemaLibrary.itemNumber? (Nat.toDigits 10 index) = some index := by
  have part := Json.toDigits_wholePart index
  have digits : (Nat.toDigits 10 index).all Char.isDigit = true := List.all_eq_true.mpr part.isDigit
  -- A zero comes first only in zero itself.
  have plain : (Nat.toDigits 10 index).length = 1 ∨ (Nat.toDigits 10 index).head? ≠ some '0' := by
    by_cases zero : (Nat.toDigits 10 index).head? = some '0'
    · rw [part.plain zero]
      exact .inl rfl
    · exact .inr zero
  have value : Address.decimal (Nat.toDigits 10 index) = index := Json.digitsValue_toDigits index
  simp [SchemaLibrary.itemNumber?, part.nonempty, digits, plain, value]

namespace Json

theorem step?_index (items : List Json) (index : ℕ) :
    SchemaLibrary.step? (toString index).toList (.array items) = items[index]? := by
  rw [SchemaLibrary.step?, memberName_plain (index_plain index).2, index_toList_digits,
    itemNumber?_index, Option.bind_some]

theorem step?_name (members : Members) {name : String} (plain : PlainToken name) :
    SchemaLibrary.step? name.toList (.object members) = members.lookup name := by
  rw [SchemaLibrary.step?, memberName_plain plain.2, String.ofList_toList]

variable {arrange : Json → Json} (rearranges : Rearranges arrange)

include rearranges

theorem Rearranges.step?_member {members : Members} (distinct : (members.map (·.1)).Nodup)
    {name : String} (plain : PlainToken name) :
    SchemaLibrary.step? name.toList (arrange (.object members)) =
      (members.lookup name).map arrange := by
  obtain ⟨met, arranged, meets⟩ := rearranges.object members distinct
  rw [arranged, step?_name met plain, meets.lookup]

theorem Rearranges.step?_item (items : List Json) (index : ℕ) :
    SchemaLibrary.step? (toString index).toList (arrange (.array items)) =
      items[index]?.map arrange := by
  rw [rearranges.array, step?_index, List.getElem?_map]

end Json

/-! The way to a node in the document. -/

theorem key_plain :
    ∀ key ∈ ["types", "fields", "alternatives", "element", "type"], PlainToken key := by
  simp [PlainToken]

/-- To the type of an item of a list. -/
def typeTokens (list : String) (index : ℕ) : List String := [list, toString index, "type"]

def PartStep.tokens : PartStep → List String
  | .component index => typeTokens "fields" index
  | .alternative index => typeTokens "alternatives" index
  | .element => ["element"]

def NodePlace.tokens (place : NodePlace) : List String :=
  typeTokens "types" place.assignment ++ place.steps.flatMap PartStep.tokens

def NodePlace.pointer (place : NodePlace) : String := pointerText place.tokens

theorem typeTokens_plain {list : String} (plain : PlainToken list) (index : ℕ) :
    ∀ token ∈ typeTokens list index, PlainToken token := by
  intro token member
  simp only [typeTokens, List.mem_cons, List.not_mem_nil, or_false] at member
  rcases member with rfl | rfl | rfl
  · exact plain
  · exact index_plain index
  · exact key_plain "type" (by simp)

theorem PartStep.tokens_plain (step : PartStep) : ∀ token ∈ step.tokens, PlainToken token := by
  cases step with
  | component index => exact typeTokens_plain (key_plain "fields" (by simp)) index
  | alternative index => exact typeTokens_plain (key_plain "alternatives" (by simp)) index
  | element => simpa [tokens] using key_plain "element" (by simp)

theorem NodePlace.tokens_plain (place : NodePlace) :
    ∀ token ∈ place.tokens, PlainToken token := by
  intro token member
  rcases List.mem_append.mp member with first | inSteps
  · exact typeTokens_plain (key_plain "types" (by simp)) place.assignment token first
  · obtain ⟨step, _, inStep⟩ := List.mem_flatMap.mp inSteps
    exact step.tokens_plain token inStep

/-- Records with a type among their members. -/
structure TypedRecords {α : Type} (fields : α → Members) (type : α → TypeNode) : Prop where
  once : ∀ value, ((fields value).map (·.1)).Nodup
  typed : ∀ value, (fields value).lookup "type" = some (type value).toJson

theorem namedRecords {α : Type} (name : α → String) (type : α → TypeNode) :
    TypedRecords (fun value => namedMembers (name value) (type value)) type where
  once _ := by simp [namedMembers]
  typed _ := rfl

theorem TypeAssignment.records :
    TypedRecords (fun assignment => namedMembers assignment.name assignment.type)
      TypeAssignment.type :=
  namedRecords TypeAssignment.name TypeAssignment.type

theorem Alternative.records :
    TypedRecords (fun alternative => namedMembers alternative.name alternative.type)
      Alternative.type :=
  namedRecords Alternative.name Alternative.type

def Component.members (component : Component TypeNode) : Members :=
  ("name", .string component.name) ::
    (optionalMember component.optional ++ [("type", component.type.toJson)])

theorem Component.records : TypedRecords Component.members Component.type where
  once component := by
    obtain ⟨name, optional, type⟩ := component
    cases optional <;> simp [members, optionalMember]
  typed component := by
    obtain ⟨name, optional, type⟩ := component
    cases optional <;> rfl

theorem TypeModule.members_nodup (module : TypeModule) : (module.members.map (·.1)).Nodup := by
  simp [members]

section

variable {arrange : Json → Json} (rearranges : Rearranges arrange)

include rearranges

/-- The types in a list of records, each found in the record of its number. -/
theorem TypedRecords.followed {α : Type} {fields : α → Members} {type : α → TypeNode}
    (records : TypedRecords fields type) {members : Members}
    (distinct : (members.map (·.1)).Nodup) {list : String} (plain : PlainToken list)
    {values : List α}
    (listed : members.lookup list = some (.array (values.map fun value => .object (fields value))))
    {index : ℕ} {value : α} (there : values[index]? = some value) :
    (arrange (.object members)).followed? ((typeTokens list index).map String.toList) =
      some (arrange (type value).toJson) := by
  have toList := rearranges.step?_member distinct plain
  have toItem := rearranges.step?_item (values.map fun value => .object (fields value)) index
  have toType := rearranges.step?_member (records.once value) (key_plain "type" (by simp))
  rw [listed, Option.map_some] at toList
  rw [List.getElem?_map, there, Option.map_some, Option.map_some] at toItem
  rw [records.typed, Option.map_some] at toType
  simp only [typeTokens, List.map_cons, List.map_nil, Json.followed?, toList, toItem, toType,
    Option.bind_some]

theorem part_followed {node part : TypeNode} {step : PartStep}
    (reached : node.part? step = some part) :
    (arrange node.toJson).followed? (step.tokens.map String.toList) =
      some (arrange part.toJson) := by
  have distinct := node.members_nodup
  rw [node.toJson_eq]
  rcases TypeNode.part?_cases reached with
    ⟨id, components, index, component, rfl, rfl, there, rfl⟩ |
    ⟨id, alternatives, index, alternative, rfl, rfl, there, rfl⟩ | ⟨id, size, rfl, rfl⟩
  · have plain := key_plain "fields" (by simp)
    apply Component.records.followed rearranges distinct plain _ there
    rw [TypeNode.lookup_part _ (by decide) (by decide), TypeNode.partMembers, shapeMembers,
      componentsJson_map]
    rfl
  · have plain := key_plain "alternatives" (by simp)
    apply Alternative.records.followed rearranges distinct plain _ there
    rw [TypeNode.lookup_part _ (by decide) (by decide), TypeNode.partMembers, shapeMembers,
      alternativesJson_map]
    rfl
  · have found : (TypeNode.shaped id (.sequenceOf size part)).members.lookup "element" =
        some part.toJson := by
      rw [TypeNode.lookup_part _ (by decide) (by decide)]
      rfl
    have toElement := rearranges.step?_member distinct (key_plain "element" (by simp))
    rw [found, Option.map_some] at toElement
    simp only [PartStep.tokens, List.map_cons, List.map_nil, Json.followed?, toElement,
      Option.bind_some]

theorem way_followed {node inner : TypeNode} {steps : List PartStep}
    (reached : node.at? steps = some inner) :
    (arrange node.toJson).followed? ((steps.flatMap PartStep.tokens).map String.toList) =
      some (arrange inner.toJson) := by
  induction steps generalizing node with
  | nil =>
      cases reached
      rfl
  | cons step rest ih =>
      obtain ⟨part, first, later⟩ := Option.bind_eq_some_iff.mp reached
      rw [List.flatMap_cons, List.map_append, Json.followed?_append, part_followed rearranges first,
        Option.bind_some]
      exact ih later

theorem node_pointed {module : TypeModule} {place : NodePlace} {node : TypeNode}
    (reached : module.node? place = some node) :
    (arrange module.toJson).pointed? place.pointer = some (arrange node.toJson) := by
  obtain ⟨assignment, declared, inside⟩ := Option.bind_eq_some_iff.mp reached
  have toType : (arrange module.toJson).followed?
      ((typeTokens "types" place.assignment).map String.toList) =
        some (arrange assignment.type.toJson) :=
    TypeAssignment.records.followed rearranges module.members_nodup
      (key_plain "types" (by simp)) rfl declared
  rw [NodePlace.pointer, pointed?_pointerText _ _ place.tokens_plain, NodePlace.tokens,
    List.map_append, Json.followed?_append, toType, Option.bind_some]
  exact way_followed rearranges inside

theorem types_pointed (module : TypeModule) :
    (arrange module.toJson).pointed? "/types" =
      some (.array (module.types.map fun assignment => arrange assignment.toJson)) := by
  have pointer : "/types" = pointerText ["types"] := rfl
  have toTypes := rearranges.step?_member module.members_nodup (key_plain "types" (by simp))
  have found : module.members.lookup "types" =
      some (.array (module.types.map TypeAssignment.toJson)) := rfl
  have document : module.toJson = .object module.members := rfl
  rw [found, Option.map_some, rearranges.array, List.map_map] at toTypes
  rw [pointer, pointed?_pointerText _ _ (by simpa using key_plain "types" (by simp)), document]
  simp only [List.map_cons, List.map_nil, Json.followed?, toTypes, Option.bind_some]
  rfl

end

/-! Pointers told apart. -/

theorem index_injective : Function.Injective (toString : ℕ → String) := by
  intro index other same
  have digits := congrArg String.toList same
  rw [index_toList_digits, index_toList_digits] at digits
  rw [← Json.digitsValue_toDigits index, digits, Json.digitsValue_toDigits]

theorem steps_told_apart (steps others : List PartStep)
    (same : steps.flatMap PartStep.tokens = others.flatMap PartStep.tokens) : steps = others := by
  induction steps generalizing others with
  | nil =>
      cases others with
      | nil => rfl
      | cons step rest => cases step <;> simp [PartStep.tokens, typeTokens] at same
  | cons step rest ih =>
      cases others with
      | nil => cases step <;> simp [PartStep.tokens, typeTokens] at same
      | cons other later =>
          -- The first token names the kind of the step, so the kinds are the same.
          cases step <;> cases other <;>
            simp only [List.flatMap_cons, PartStep.tokens, typeTokens, List.cons_append,
              List.nil_append, List.cons.injEq, String.reduceEq, true_and, false_and] at same
          · rw [index_injective same.1, ih later same.2]
          · rw [index_injective same.1, ih later same.2]
          · rw [ih later same]

theorem NodePlace.pointer_injective : Function.Injective NodePlace.pointer := by
  intro place other same
  -- No token holds a slash, so the text splits into the tokens it is made of.
  have pieces := congrArg (fun text => Text.pieces (· == '/') text.toList) same
  simp only [pointer, pieces_pointerText _ (tokens_plain _), List.cons.injEq, true_and] at pieces
  have tokens : place.tokens = other.tokens :=
    (List.map_injective_iff.mpr fun _ _ same => String.toList_inj.mp same) pieces
  obtain ⟨assignment, steps⟩ := place
  obtain ⟨otherAssignment, others⟩ := other
  simp only [NodePlace.tokens, typeTokens, List.cons_append, List.nil_append, List.cons.injEq,
    true_and] at tokens
  rw [index_injective tokens.1, steps_told_apart _ _ tokens.2]

end Asn1Constraints
