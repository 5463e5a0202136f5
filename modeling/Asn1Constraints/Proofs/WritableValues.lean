import Asn1Constraints.Proofs.AskedQuestions
import Asn1Constraints.Proofs.JsonRoundTrip
import Asn1Constraints.Proofs.Occurrences
import Mathlib

/-!
Which valid values can be written as documents. A node with an id has checked
that its value is of its kind; a boolean or null without an id has checked
nothing, and only there can a valid value turn out to be of another kind.
-/

namespace Asn1Constraints

/-- A boolean or null without an id holds a value of its kind all the same. -/
def OwnKind : TypeNode → Value → Prop
  | .shaped id .boolean, value => id = 0 → ∃ b, value = .boolean b
  | .shaped id .null, value => id = 0 → value = .null
  | _, _ => True

/-- What lies between finite values is finite. -/
theorem Binary64.isFinite_of_between {low high x : Binary64} (atLow : low.isFinite = true)
    (atHigh : high.isFinite = true) (number : x.isNaN = false) (above : low.rank ≤ x.rank)
    (below : x.rank ≤ high.rank) : x.isFinite = true := by
  simp only [isFinite, isNaN, decide_eq_true_eq, decide_eq_false_iff_not] at *
  have least : -(low.magnitude : Int) ≤ low.rank := by
    unfold rank
    split <;> omega
  have greatest : high.rank ≤ high.magnitude := by
    unfold rank
    split <;> omega
  have own : x.rank = x.magnitude ∨ x.rank = -(x.magnitude : Int) := by
    unfold rank
    split <;> simp
  omega

namespace Value

/-- At any place the value can be written exactly if every part of it that has
to be is of its own kind. -/
def Written (module : TypeModule) (node : TypeNode) (value : Value) : Prop :=
  ∀ place, (∃ json, writePart module place node value = .ok json) ↔
    Everywhere module OwnKind node value

/-- A shape without parts is written if the value is of its kind. -/
theorem leaf_written {module : TypeModule} {id : ConstraintId} {shape : Shape TypeNode}
    {value : Value} (bare : shape.parts = [])
    (shown : ∀ place, (∃ json, writeShape (writePart module) place shape value = .ok json) ↔
      OwnKind (.shaped id shape) value) : Written module (.shaped id shape) value := by
  intro place
  rw [writePart_shaped, Everywhere.shaped_iff, shown place]
  refine (and_iff_left fun part content assigned => ?_).symm
  exact absurd (Shape.assigned_mem_parts assigned) (by simp [bare])

theorem boolean_written {module : TypeModule} {id : ConstraintId} {value : Value}
    (kind : id = 0 ∨ ∃ b, value = .boolean b) : Written module (.shaped id .boolean) value := by
  refine leaf_written rfl fun place => ?_
  cases value with
  | boolean b => exact iff_of_true ⟨_, rfl⟩ fun _ => ⟨b, rfl⟩
  | _ =>
      have unset : id = 0 := kind.resolve_right nofun
      exact iff_of_false nofun fun own => nomatch own unset

theorem null_written {module : TypeModule} {id : ConstraintId} {value : Value}
    (kind : id = 0 ∨ value = .null) : Written module (.shaped id .null) value := by
  refine leaf_written rfl fun place => ?_
  cases value with
  | null => exact iff_of_true ⟨_, rfl⟩ fun _ => rfl
  | _ =>
      have unset : id = 0 := kind.resolve_right nofun
      exact iff_of_false nofun fun own => nomatch own unset

theorem elements_written {part : PartWriter} {element : TypeNode} {good : Value → Prop}
    (items : List Value) (each : ∀ item ∈ items, ∀ place,
      (∃ json, part place element item = .ok json) ↔ good item) (place : String) (index : Nat) :
    (∃ documents, writeElements part place element index items = .ok documents) ↔
      ∀ item ∈ items, good item := by
  induction items generalizing index with
  | nil => simp [writeElements]
  | cons item rest ih =>
      obtain ⟨own, others⟩ := List.forall_mem_cons.mp each
      have after := ih others (index + 1)
      rw [List.forall_mem_cons, ← after, ← own s!"{place}[{index}]", writeElements]
      constructor
      · rintro ⟨documents, written⟩
        obtain ⟨json, first, remaining⟩ := bind_ok_iff.mp written
        obtain ⟨jsons, following, _⟩ := bind_ok_iff.mp remaining
        exact ⟨⟨json, first⟩, ⟨jsons, following⟩⟩
      · rintro ⟨⟨json, first⟩, ⟨jsons, following⟩⟩
        exact ⟨json :: jsons, by rw [first, following]; rfl⟩

theorem components_written {part : PartWriter} (good : TypeNode → Value → Prop)
    (values : List (String × Value)) (components : List (Component TypeNode))
    (each : ∀ component ∈ components, ∀ value, values.lookup component.name = some value →
      ∀ place, (∃ json, part place component.type value = .ok json) ↔ good component.type value)
    (place : String) :
    (∃ members, writeComponents part place values components = .ok members) ↔
      ∀ component ∈ components, ∀ value, values.lookup component.name = some value →
        good component.type value := by
  induction components with
  | nil => simp [writeComponents]
  | cons component rest ih =>
      obtain ⟨own, others⟩ := List.forall_mem_cons.mp each
      have after := ih others
      rw [List.forall_mem_cons, ← after, writeComponents]
      cases found : values.lookup component.name with
      | none => simp
      | some value =>
          have here := own value found s!"{place}.{component.name}"
          simp only [Option.some.injEq, forall_eq', ← here]
          constructor
          · rintro ⟨members, written⟩
            obtain ⟨json, first, remaining⟩ := bind_ok_iff.mp written
            obtain ⟨jsons, following, _⟩ := bind_ok_iff.mp remaining
            exact ⟨⟨json, first⟩, ⟨jsons, following⟩⟩
          · rintro ⟨⟨json, first⟩, ⟨jsons, following⟩⟩
            exact ⟨(component.name, json) :: jsons, by rw [first, following]; rfl⟩

theorem sequenceOf_written {module : TypeModule} {id : ConstraintId} {size : SizeBounds}
    {element : TypeNode} (items : List Value)
    (each : ∀ item ∈ items, Written module element item) :
    Written module (.shaped id (.sequenceOf size element)) (.sequenceOf items) := by
  intro place
  have elements := elements_written items each place 0
  rw [writePart_shaped, writeShape, Everywhere.shaped_iff]
  constructor
  · rintro ⟨json, written⟩
    obtain ⟨documents, listed, _⟩ := map_ok_iff.mp written
    refine ⟨trivial, ?_⟩
    rintro part content ⟨member, rfl⟩
    exact elements.mp ⟨documents, listed⟩ content member
  · rintro ⟨_, parts⟩
    obtain ⟨documents, listed⟩ := elements.mpr fun item member => parts element item ⟨member, rfl⟩
    exact ⟨.array documents, map_ok_iff.mpr ⟨documents, listed, rfl⟩⟩

theorem sequence_written {module : TypeModule} {id : ConstraintId}
    {components : List (Component TypeNode)} (values : List (String × Value))
    (unique : (values.map (·.1)).Nodup)
    (each : ∀ component ∈ components, ∀ value, (component.name, value) ∈ values →
      Written module component.type value) :
    Written module (.shaped id (.sequence components)) (.sequence values) := by
  intro place
  have listing := components_written (Everywhere module OwnKind) values components
    (fun component declared value found => each component declared value (mem_of_lookup found)) place
  rw [writePart_shaped, writeShape, Everywhere.shaped_iff]
  constructor
  · rintro ⟨json, written⟩
    obtain ⟨members, listed, _⟩ := map_ok_iff.mp written
    refine ⟨trivial, ?_⟩
    rintro part content ⟨component, declared, member, rfl⟩
    exact listing.mp ⟨members, listed⟩ component declared content (lookup_of_mem unique member)
  · rintro ⟨_, parts⟩
    obtain ⟨members, listed⟩ := listing.mpr fun component declared value found =>
      parts component.type value ⟨component, declared, mem_of_lookup found, rfl⟩
    exact ⟨_, map_ok_iff.mpr ⟨members, listed, rfl⟩⟩

theorem choice_written {module : TypeModule} {id : ConstraintId}
    {alternatives : List (Alternative TypeNode)} (name : String) (content : Value)
    (distinct : (alternatives.map (·.name)).Nodup) (selected : name ∈ alternatives.map (·.name))
    (each : ∀ alternative ∈ alternatives, name = alternative.name →
      Written module alternative.type content) :
    Written module (.shaped id (.choice alternatives)) (.choice name content) := by
  obtain ⟨alternative, found⟩ := Alternative.exists_byName? selected
  obtain ⟨declared, named⟩ := Alternative.declared_of_byName? found
  intro place
  have inside := each alternative declared named.symm s!"{place}.{name}"
  rw [writePart_shaped, writeShape, writeAlternative, found, Everywhere.shaped_iff]
  constructor
  · rintro ⟨json, written⟩
    obtain ⟨document, first, _⟩ := bind_ok_iff.mp written
    refine ⟨trivial, ?_⟩
    rintro part contents ⟨other, among, same, rfl, rfl⟩
    obtain rfl := List.inj_on_of_nodup_map distinct declared among (named.trans same)
    exact inside.mp ⟨document, first⟩
  · rintro ⟨_, parts⟩
    obtain ⟨document, first⟩ :=
      inside.mpr (parts alternative.type content ⟨alternative, declared, named.symm, rfl, rfl⟩)
    exact ⟨_, bind_ok_iff.mpr ⟨document, first, rfl⟩⟩

theorem shaped_written {module : TypeModule} {id : ConstraintId} (shape : Shape TypeNode)
    (sound : shape.Sound)
    (finite : ∀ bounds, shape = .real bounds →
      bounds.min.isFinite = true ∧ bounds.max.isFinite = true)
    (value : Value) (fits : shape.Fits value)
    (each : ∀ part content, shape.Assigns value part content → Written module part content) :
    Written module (.shaped id shape) value := by
  -- A leaf that fits is of its kind; reals and items need what their bounds say besides.
  cases fits.ofKind with
  | boolean b => exact boolean_written (.inr ⟨b, rfl⟩)
  | null => exact null_written (.inr rfl)
  | real bounds x =>
      obtain ⟨number, above, below⟩ := fits
      obtain ⟨low, high⟩ := finite bounds rfl
      have shown := Binary64.isFinite_of_between low high number above below
      exact leaf_written rfl fun place =>
        iff_of_true ⟨_, writeShape_ok_iff.mpr (.real x shown)⟩ trivial
  | enumerated items n =>
      obtain ⟨item, found⟩ := EnumItem.exists_byValue? fits
      exact leaf_written rfl fun place =>
        iff_of_true ⟨_, writeShape_ok_iff.mpr (.enumerated found)⟩ trivial
  | sequenceOf size element items =>
      exact sequenceOf_written items fun item member => each element item ⟨member, rfl⟩
  | sequence components values =>
      exact sequence_written values fits.2.2 fun component declared content member =>
        each component.type content ⟨component, declared, member, rfl⟩
  | choice alternatives name content =>
      exact choice_written name content sound.2 fits fun alternative declared named =>
        each alternative.type content ⟨alternative, declared, named, rfl, rfl⟩
  | _ => exact leaf_written rfl fun place => iff_of_true ⟨_, rfl⟩ trivial

end Value

namespace TypeModule

theorem WellFormed.written {module : TypeModule} (wellFormed : module.WellFormed)
    (finite : module.FiniteReals) (assignment : TypeAssignment)
    (declared : assignment ∈ module.types) :
    ∀ value, Conforms module assignment.type value →
      Value.Written module assignment.type value := by
  apply wellFormed.nodeInduction (motive := fun node => ∀ value, Conforms module node value →
    Value.Written module node value) ?_ ?_ assignment declared
  · intro id target other found ih value conforms place
    have inside := (conforms_reference_iff id target other found value).mp conforms
    rw [Value.writePart_reference found, ih value inside place,
      Everywhere.reference_iff found]
    exact (and_iff_right trivial).symm
  · intro id shape member sound ih value conforms
    cases conforms with
    | unchecked leaf =>
        rcases leaf with rfl | rfl
        · exact Value.boolean_written (.inl rfl)
        · exact Value.null_written (.inl rfl)
    | shaped fits parts =>
        refine Value.shaped_written shape sound ?_ value fits fun part content assigned =>
          ih part (Shape.assigned_mem_parts assigned) content (parts part content assigned)
        rintro bounds rfl
        exact finite id bounds member

/-- A valid value can be written exactly if its booleans and nulls without an id
are of their kind; all else is settled by the plan. -/
theorem toJson_ok_iff_ownKind (module : TypeModule) (accepted : module.validate = .ok ())
    (finite : module.FiniteReals) (assignment : TypeAssignment)
    (declared : assignment ∈ module.types) :
    ∃ plan, module.compile assignment.name = .ok plan ∧
      ∀ value, plan.validate value = .ok () →
        ((∃ json, value.toJson module assignment.type = .ok json) ↔
          Everywhere module OwnKind assignment.type value) := by
  have wellFormed := wellFormed_of_validate accepted
  obtain ⟨plan, compiled, accepts⟩ := wellFormed.accepting_plan accepted assignment declared
  refine ⟨plan, compiled, fun value valid => ?_⟩
  exact wellFormed.written finite assignment declared value ((accepts value).mp valid) "$"

def flag : TypeAssignment := ⟨"Flag", .shaped 0 .boolean⟩

def entry : TypeAssignment :=
  ⟨"Entry", .shaped 1 (.sequence [⟨"set", false, .reference 0 "Flag"⟩,
    ⟨"level", true, .shaped 2 (.real .unconstrained)⟩])⟩

/-- A flag without an id, alone and in an entry. -/
def flags : TypeModule := ⟨modelVersion, "Flags", [flag, entry]⟩

theorem flags_finite : flags.FiniteReals := by
  intro id bounds member
  obtain ⟨rfl, rfl⟩ : id = 2 ∧ bounds = .unconstrained := by
    simpa [nodes, flags, flag, entry, TypeNode.nodes, TypeNode.componentNodes] using member
  exact ⟨by decide, by decide⟩

/-- A number passes for a flag and cannot be written as one. -/
theorem flags_accept_unwritable :
    ¬ ∀ module : TypeModule, module.validate = .ok () → module.FiniteReals →
      ∀ assignment ∈ module.types, ∀ plan, module.compile assignment.name = .ok plan →
        ∀ value, plan.validate value = .ok () →
          ∃ json, value.toJson module assignment.type = .ok json := by
  intro claimed
  have planned : flags.compile flag.name = .ok _ := rfl
  obtain ⟨json, written⟩ := claimed flags rfl flags_finite flag List.mem_cons_self _ planned
    (.integer 5) rfl
  cases written

/-- An entry whose flag is a flag. -/
def entered : Value := .sequence [("set", .boolean true)]

theorem entered_ownKind : Everywhere flags OwnKind entry.type entered := by
  refine Everywhere.shaped_iff.mpr ⟨trivial, ?_⟩
  rintro part content ⟨component, declared, member, rfl⟩
  obtain ⟨named, rfl⟩ : component.name = "set" ∧ content = .boolean true := by
    simpa [entered] using member
  obtain rfl : component = ⟨"set", false, .reference 0 "Flag"⟩ := by
    rcases List.mem_pair.mp declared with rfl | rfl
    · rfl
    · simp at named
  have found : flags.find? "Flag" = some flag := rfl
  refine (Everywhere.reference_iff found).mpr ⟨trivial, ?_⟩
  refine Everywhere.shaped_iff.mpr ⟨fun _ => ⟨true, rfl⟩, ?_⟩
  simp [Shape.Assigns]

theorem entered_written :
    flags.validate = .ok () ∧ flags.FiniteReals ∧ entry ∈ flags.types ∧
      ∃ plan, flags.compile entry.name = .ok plan ∧ plan.validate entered = .ok () ∧
        Everywhere flags OwnKind entry.type entered ∧
          ∃ json, entered.toJson flags entry.type = .ok json := by
  obtain ⟨plan, compiled, written⟩ := toJson_ok_iff_ownKind flags rfl flags_finite entry (by simp [flags])
  have planned : flags.compile entry.name = .ok _ := rfl
  have valid : plan.validate entered = .ok () := by
    obtain rfl := Except.ok.inj (planned.symm.trans compiled)
    rfl
  exact ⟨rfl, flags_finite, by simp [flags], plan, compiled, valid, entered_ownKind,
    (written entered valid).mpr entered_ownKind⟩

end TypeModule

end Asn1Constraints
