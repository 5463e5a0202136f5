import Asn1Constraints.Proofs.HexDigits
import Asn1Constraints.Proofs.ShapeDocuments
import Mathlib

/-!
Values written as documents and read back. What comes back is the normal form
of what was written: items go through their names and return, strings through
their digits, and the members of an object through the order of its keys to the
order of the declaration. That each name is there once is what makes the first
of a name all there is.
-/

namespace Asn1Constraints

namespace Json

variable {α : Type}

theorem lookup_insertMember (key name : String) (value : α) (members : List (String × α)) :
    (insertMember key value members).lookup name =
      if name = key then some value else members.lookup name := by
  induction members with
  | nil => exact lookup_cons_if name key value []
  | cons member rest ih =>
      obtain ⟨other, old⟩ := member
      rw [insertMember]
      by_cases before : key < other
      · rw [if_pos before, lookup_cons_if]
      · by_cases replaced : key = other
        · subst replaced
          by_cases same : name = key <;> simp [lookup_cons_if, same]
        · rw [if_neg before, if_neg replaced, lookup_cons_if, ih, lookup_cons_if]
          by_cases here : name = other
          · simp [here, Ne.symm replaced]
          · simp [here]

/-- Settling keeps what each key is looked up to, as long as no key repeats. -/
theorem lookup_settleMembers (members : List (String × α))
    (unique : (members.map (·.1)).Nodup) (name : String) :
    (settleMembers members).lookup name = members.lookup name := by
  -- The members are entered one by one, so the claim is about any members entered before.
  have onto : ∀ settled : List (String × α),
      (members.foldl (fun settled member => insertMember member.1 member.2 settled) settled).lookup
        name = (members.lookup name).or (settled.lookup name) := by
    induction members with
    | nil => simp
    | cons member rest ih =>
        obtain ⟨fresh, others⟩ := List.nodup_cons.mp unique
        intro settled
        rw [List.foldl_cons, ih others, lookup_insertMember, lookup_cons_if]
        by_cases same : name = member.1
        · have absent := (lookup_eq_none_iff_absent rest member.1).mpr fresh
          simp [same, absent]
        · simp [same]
  simpa [settleMembers] using onto []

end Json

/-- The components of a sequence are declared ones, and none is there twice.
Nothing is asked of values of other kinds. -/
def Shape.Settled {Node : Type} : Shape Node → Value → Prop
  | .sequence components, .sequence values =>
    (∀ name ∈ values.map (·.1), name ∈ components.map (·.name)) ∧ (values.map (·.1)).Nodup
  | _, _ => True

theorem Shape.Fits.settled {Node : Type} {shape : Shape Node} {value : Value}
    (fits : shape.Fits value) : shape.Settled value := by
  cases shape with
  | sequence components =>
      cases value with
      | sequence values => exact fits.2
      | _ => trivial
  | _ => trivial

namespace Value

/-! Scalars. -/

theorem int64?_ofInt64 (n : Int64) : (Json.ofInt64 n).int64? = some n := by
  have bound : n.toInt ≤ Int64.maxValue.toInt := Int64.toInt_le n
  simp [Json.ofInt64, Json.int64?, WholeNumber.ofInt64, bound]

theorem bits_back (place : String) (bits : List Bool) :
    (bits.map fun bit => if bit then '1' else '0').mapM (bitOf place) = .ok bits := by
  induction bits with
  | nil => rfl
  | cons bit rest ih =>
      rw [List.map_cons, List.mapM_cons, ih]
      cases bit <;> rfl

/-- The document reads back, at any place, as the normal form of the value. -/
def ReadsBack (module : TypeModule) (node : TypeNode) (value : Value) (json : Json) : Prop :=
  ∃ normal, (∀ place, readPart module place node json = .ok normal) ∧
    normalized module node value = .ok normal

/-- Whatever is written for the value at its node reads back, at any place, as
the normal form of the value. -/
def RoundTrips (module : TypeModule) (node : TypeNode) (value : Value) : Prop :=
  ∀ place json, writePart module place node value = .ok json →
    ∃ normal, (∀ other, readPart module other node json = .ok normal) ∧
      normalized module node value = .ok normal

theorem RoundTrips.reference {module : TypeModule} {id : ConstraintId} {target : String}
    {assignment : TypeAssignment}
    (found : module.find? target = some assignment) {value : Value}
    (back : RoundTrips module assignment.type value) :
    RoundTrips module (.reference id target) value := by
  intro place json written
  rw [writePart_reference found] at written
  obtain ⟨normal, read, same⟩ := back place json written
  refine ⟨normal, fun there => ?_, ?_⟩
  · rw [readPart_reference found, read there]
  · rw [normalized_reference found, same]

/-- A shape without parts, where the normal form is the value itself. -/
theorem readsBack_bare {module : TypeModule} {id : ConstraintId} {shape : Shape TypeNode}
    {value : Value} {json : Json} (same : normalizeShape (normalized module) shape value = .ok value)
    (read : ∀ place, ReadAs (readPart module) place shape json value) :
    ReadsBack module (.shaped id shape) value json := by
  refine ⟨value, fun place => ?_, ?_⟩
  · rw [readPart_shaped, readShape_ok_iff]
    exact read place
  · rw [normalized_shaped, same]

/-! Collections. -/

theorem elements_back {module : TypeModule} {element : TypeNode} (items : List Value)
    (each : ∀ item ∈ items, RoundTrips module element item) (place : String) (index : Nat)
    (documents : List Json)
    (written : writeElements (writePart module) place element index items = .ok documents) :
    ∃ normals, (∀ other start,
        readElements (readPart module) other element start documents = .ok normals) ∧
      items.mapM (normalized module element) = .ok normals := by
  induction items generalizing index documents with
  | nil =>
      obtain rfl : [] = documents := Except.ok.inj written
      exact ⟨[], fun _ _ => rfl, rfl⟩
  | cons item rest ih =>
      obtain ⟨own, others⟩ := List.forall_mem_cons.mp each
      obtain ⟨json, first, remaining⟩ := bind_ok_iff.mp written
      obtain ⟨jsons, after, result⟩ := bind_ok_iff.mp remaining
      obtain rfl : json :: jsons = documents := Except.ok.inj result
      obtain ⟨normal, read, same⟩ := own _ _ first
      obtain ⟨normals, readAll, sameAll⟩ := ih others _ _ after
      refine ⟨normal :: normals, fun other start => ?_, ?_⟩
      · rw [readElements, read, readAll]
        rfl
      · rw [List.mapM_cons, same, sameAll]
        rfl

theorem sequenceOf_back {module : TypeModule} {id : ConstraintId} {size : SizeBounds}
    {element : TypeNode} {items : List Value}
    (each : ∀ item ∈ items, RoundTrips module element item) {place : String}
    {documents : List Json}
    (listed : writeElements (writePart module) place element 0 items = .ok documents) :
    ReadsBack module (.shaped id (.sequenceOf size element)) (.sequenceOf items)
      (.array documents) := by
  obtain ⟨normals, read, same⟩ := elements_back items each place 0 documents listed
  refine ⟨.sequenceOf normals, fun other => ?_, ?_⟩
  · rw [readPart_shaped, readShape_ok_iff]
    exact .sequenceOf (read other 0)
  · rw [normalized_shaped, normalizeShape, same]
    rfl

/-! Sequences. -/

/-- What a value and the members of its document have at the name of a component. -/
def Matched (written : TypeNode → Value → Json → Prop) (values : List (String × Value))
    (members : Members) (component : Component TypeNode) : Prop :=
  match values.lookup component.name with
  | none => members.lookup component.name = none
  | some value => ∃ json, members.lookup component.name = some json ∧
      written component.type value json

theorem writeComponents_ok {part : PartWriter} (place : String) (values : List (String × Value))
    (components : List (Component TypeNode)) (distinct : (components.map (·.name)).Nodup)
    (members : Members) (written : writeComponents part place values components = .ok members) :
    (members.map (·.1)).Sublist (components.map (·.name)) ∧
      ∀ component ∈ components, Matched (fun node value json => ∃ inside,
        part inside node value = .ok json) values members component := by
  induction components generalizing members with
  | nil =>
      obtain rfl : [] = members := Except.ok.inj written
      exact ⟨.slnil, by simp⟩
  | cons component rest ih =>
      obtain ⟨fresh, others⟩ := List.nodup_cons.mp distinct
      rw [writeComponents] at written
      cases found : values.lookup component.name with
      | none =>
          rw [found] at written
          obtain ⟨names, each⟩ := ih others members written
          refine ⟨names.cons _, List.forall_mem_cons.mpr ⟨?_, each⟩⟩
          rw [Matched, found]
          exact (lookup_eq_none_iff_absent _ _).mpr fun member => fresh (names.subset member)
      | some value =>
          rw [found] at written
          obtain ⟨json, first, remaining⟩ := bind_ok_iff.mp written
          obtain ⟨after, following, result⟩ := bind_ok_iff.mp remaining
          obtain rfl : (component.name, json) :: after = members := Except.ok.inj result
          obtain ⟨names, each⟩ := ih others after following
          refine ⟨names.cons_cons _, List.forall_mem_cons.mpr ⟨?_, fun other later => ?_⟩⟩
          · rw [Matched, found]
            exact ⟨json, by simp, _, first⟩
          · have apart : other.name ≠ component.name :=
              fun same => fresh (List.mem_map.mpr ⟨other, later, same⟩)
            have matched := each other later
            rw [Matched] at matched ⊢
            rw [lookup_cons_if, if_neg apart]
            exact matched

/-- Where no name repeats, the first component of a name is the only one. -/
theorem normalizeNamed_unique (part : PartNormalizer) (component : Component TypeNode)
    (values : List (String × Value)) (unique : (values.map (·.1)).Nodup) :
    normalizeNamed part component values =
      match values.lookup component.name with
      | none => .ok []
      | some value => (part component.type value).map fun normal => [(component.name, normal)] := by
  induction values with
  | nil => rfl
  | cons entry rest ih =>
      obtain ⟨fresh, others⟩ := List.nodup_cons.mp unique
      obtain ⟨name, value⟩ := entry
      rw [normalizeNamed, ih others, lookup_cons_if]
      by_cases same : name = component.name
      · subst same
        have absent := (lookup_eq_none_iff_absent rest component.name).mpr fresh
        simp only [absent, if_true]
        cases part component.type value <;> rfl
      · rw [if_neg same, if_neg (Ne.symm same)]

theorem components_back {module : TypeModule} (values : List (String × Value))
    (unique : (values.map (·.1)).Nodup) (members : Members)
    (components : List (Component TypeNode))
    (each : ∀ component ∈ components, Matched (ReadsBack module) values members component) :
    ∃ normals, (∀ place,
        readComponents (readPart module) place members components = .ok normals) ∧
      normalizeDeclared (normalized module) values components = .ok normals := by
  induction components with
  | nil => exact ⟨[], fun _ => rfl, rfl⟩
  | cons component rest ih =>
      obtain ⟨own, others⟩ := List.forall_mem_cons.mp each
      obtain ⟨normals, readAll, sameAll⟩ := ih others
      rw [normalizeDeclared, normalizeNamed_unique _ _ _ unique, sameAll]
      rw [Matched] at own
      cases found : values.lookup component.name with
      | none =>
          rw [found] at own
          refine ⟨normals, fun place => ?_, rfl⟩
          rw [readComponents, own]
          exact readAll place
      | some value =>
          rw [found] at own
          obtain ⟨json, member, normal, read, same⟩ := own
          refine ⟨(component.name, normal) :: normals, fun place => ?_, ?_⟩
          · rw [readComponents, member]
            simp only
            rw [read, readAll]
            rfl
          · simp only
            rw [same]
            rfl

theorem sequence_back {module : TypeModule} {id : ConstraintId}
    {components : List (Component TypeNode)} (distinct : (components.map (·.name)).Nodup)
    {values : List (String × Value)}
    (settled : (Shape.sequence components).Settled (.sequence values))
    (each : ∀ component ∈ components, ∀ value, (component.name, value) ∈ values →
      RoundTrips module component.type value) {place : String} {members : Members}
    (listed : writeComponents (writePart module) place values components = .ok members) :
    ReadsBack module (.shaped id (.sequence components)) (.sequence values)
      (.object (Json.settleMembers members)) := by
  obtain ⟨known, unique⟩ := settled
  obtain ⟨names, matched⟩ := writeComponents_ok place values components distinct members listed
  have settled := Json.lookup_settleMembers members (names.nodup distinct)
  -- Only declared components are written, so the reader meets no unknown key.
  have declared : undeclared? components (Json.settleMembers members) = none := by
    rw [undeclared?, List.find?_eq_none]
    intro member inside
    have present : member.1 ∈ members.map (·.1) := by
      by_contra absent
      rw [← lookup_eq_none_iff_absent, ← settled, lookup_eq_none_iff_absent] at absent
      exact absent (List.mem_map_of_mem inside)
    simpa [Component.byName?] using names.subset present
  -- And all components are declared, so the normal form keeps none at the end.
  have nothingElse : undeclared components values = [] := by
    rw [undeclared, List.filter_eq_nil_iff]
    intro entry member
    simpa [Component.byName?] using known entry.1 (List.mem_map_of_mem member)
  obtain ⟨normals, read, same⟩ := components_back values unique (Json.settleMembers members)
    components fun component member => by
      have own := matched component member
      rw [Matched] at own ⊢
      rw [settled]
      cases found : values.lookup component.name with
      | none =>
          rw [found] at own
          exact own
      | some value =>
          rw [found] at own
          obtain ⟨json, entry, inside, rendered⟩ := own
          exact ⟨json, entry, each component member value (mem_of_lookup found) inside json rendered⟩
  refine ⟨.sequence normals, fun other => ?_, ?_⟩
  · rw [readPart_shaped, readShape_ok_iff]
    exact .sequence declared (read other)
  · rw [normalized_shaped, normalizeShape, same, nothingElse]
    simp only [List.append_nil]
    rfl

/-! Choices. -/

theorem choice_back {module : TypeModule} {id : ConstraintId}
    {alternatives : List (Alternative TypeNode)} {name : String} {content : Value}
    {alternative : Alternative TypeNode}
    (selected : Alternative.byName? alternatives name = some alternative)
    (own : RoundTrips module alternative.type content) {place : String} {document : Json}
    (first : writePart module place alternative.type content = .ok document) :
    ReadsBack module (.shaped id (.choice alternatives)) (.choice name content)
      (.object [(name, document)]) := by
  obtain ⟨normal, read, same⟩ := own place document first
  refine ⟨.choice name normal, fun other => ?_, ?_⟩
  · rw [readPart_shaped, readShape_ok_iff]
    exact .choice selected (read _)
  · rw [normalized_shaped, normalizeShape, selected]
    simp only
    rw [same]
    rfl

/-! All shapes. -/

theorem boolean_back {module : TypeModule} {id : ConstraintId} (value : Value) :
    RoundTrips module (.shaped id .boolean) value := by
  intro place json written
  rw [writePart_shaped, writeShape_ok_iff] at written
  cases written with
  | boolean b => exact readsBack_bare rfl fun _ => .boolean b

theorem null_back {module : TypeModule} {id : ConstraintId} (value : Value) :
    RoundTrips module (.shaped id .null) value := by
  intro place json written
  rw [writePart_shaped, writeShape_ok_iff] at written
  cases written with
  | null => exact readsBack_bare rfl fun _ => .null

theorem shaped_back {module : TypeModule} {id : ConstraintId} (shape : Shape TypeNode)
    (sound : shape.Sound) (value : Value) (settled : shape.Settled value)
    (each : ∀ part content, shape.Assigns value part content → RoundTrips module part content) :
    RoundTrips module (.shaped id shape) value := by
  intro place json written
  rw [writePart_shaped, writeShape_ok_iff] at written
  cases written with
  | integer n => exact readsBack_bare rfl fun _ => .integer (int64?_ofInt64 n)
  | real x finite => exact readsBack_bare rfl fun _ => .real rfl
  | boolean b => exact readsBack_bare rfl fun _ => .boolean b
  | null => exact readsBack_bare rfl fun _ => .null
  | enumerated found =>
      obtain ⟨named, rfl⟩ := EnumItem.byName?_of_byValue? sound.2.1 found
      exact readsBack_bare rfl fun _ => .enumerated named
  | octetString bytes => exact readsBack_bare rfl fun _ => .octetString (Hex.decode_encode bytes)
  | bitString bits =>
      refine readsBack_bare rfl fun other => .bitString ?_
      rw [String.toList_ofList, bits_back]
  | ia5String text => exact readsBack_bare rfl fun _ => .ia5String text
  | sequenceOf listed => exact sequenceOf_back (fun item member => each _ item ⟨member, rfl⟩) listed
  | sequence listed =>
      exact sequence_back sound settled (fun component declared content member =>
        each component.type content ⟨component, declared, member, rfl⟩) listed
  | choice selected first =>
      obtain ⟨declared, named⟩ := Alternative.declared_of_byName? selected
      exact choice_back selected (each _ _ ⟨_, declared, named.symm, rfl, rfl⟩) first

end Value

namespace TypeModule

theorem WellFormed.roundTrips {module : TypeModule} (wellFormed : module.WellFormed)
    (assignment : TypeAssignment) (declared : assignment ∈ module.types) :
    ∀ value, Conforms module assignment.type value →
      Value.RoundTrips module assignment.type value := by
  apply wellFormed.nodeInduction (motive := fun node => ∀ value, Conforms module node value →
    Value.RoundTrips module node value) ?_ ?_ assignment declared
  · intro id target other found ih value conforms
    exact .reference found
      (ih value ((conforms_reference_iff id target other found value).mp conforms))
  · intro id shape _ sound ih value conforms
    cases conforms with
    | unchecked leaf =>
        rcases leaf with rfl | rfl
        · exact Value.boolean_back value
        · exact Value.null_back value
    | shaped fits parts =>
        exact Value.shaped_back shape sound value fits.settled fun part content assigned =>
          ih part (Shape.assigned_mem_parts assigned) content (parts part content assigned)

/-- What is written for a valid value reads back as the normal form of the value. -/
theorem ofJson_toJson_normalized (module : TypeModule) (accepted : module.validate = .ok ())
    (assignment : TypeAssignment) (declared : assignment ∈ module.types) :
    ∃ plan, module.compile assignment.name = .ok plan ∧
      ∀ value, plan.validate value = .ok () →
        ∀ json, value.toJson module assignment.type = .ok json →
          ∃ normal, Value.ofJson module assignment.type json = .ok normal ∧
            value.normalized module assignment.type = .ok normal := by
  have wellFormed := wellFormed_of_validate accepted
  obtain ⟨plan, compiled, accepts⟩ := wellFormed.accepting_plan accepted assignment declared
  refine ⟨plan, compiled, fun value valid json written => ?_⟩
  obtain ⟨normal, read, same⟩ :=
    wellFormed.roundTrips assignment declared value ((accepts value).mp valid) "$" json written
  exact ⟨normal, read "$", same⟩

def measure : TypeAssignment :=
  ⟨"Measure", .shaped 1 (.sequence [
    ⟨"unit", false, .shaped 2 (.enumerated [⟨"metre", 1⟩, ⟨"second", 2⟩])⟩,
    ⟨"readings", true, .shaped 3 (.sequenceOf ⟨0, 8⟩ (.reference 0 "Raw"))⟩])⟩

/-- A unit with up to eight readings as they came. -/
def measures : TypeModule :=
  ⟨modelVersion, "Measures", [measure, ⟨"Raw", .shaped 4 (.octetString ⟨0, 4⟩)⟩]⟩

/-- Not in the order of the declaration. -/
def seconds : Value :=
  .sequence [("readings", .sequenceOf [.octetString [10, 255], .octetString []]),
    ("unit", .enumerated 2)]

theorem measures_read_back :
    measures.validate = .ok () ∧ measure ∈ measures.types ∧
      ∃ plan, measures.compile measure.name = .ok plan ∧ plan.validate seconds = .ok () ∧
        ∃ json, seconds.toJson measures measure.type = .ok json ∧
          ∃ normal, Value.ofJson measures measure.type json = .ok normal ∧
            seconds.normalized measures measure.type = .ok normal := by
  obtain ⟨plan, compiled, back⟩ :=
    ofJson_toJson_normalized measures rfl measure List.mem_cons_self
  have planned : measures.compile measure.name = .ok _ := rfl
  have valid : plan.validate seconds = .ok () := by
    obtain rfl := Except.ok.inj (planned.symm.trans compiled)
    rfl
  have written : seconds.toJson measures measure.type = .ok _ := rfl
  exact ⟨rfl, List.mem_cons_self, plan, compiled, valid, _, written, back seconds valid _ written⟩

end TypeModule

end Asn1Constraints
