import Asn1Constraints.Proofs.Names
import Asn1Constraints.Proofs.PlannedChecks
import Mathlib

/-!
Conformance of values to types, as a relation between the two trees. A rule
says only what its own node asks of a value; the plan of a type accepts a value
exactly if it conforms, since a part that no run of checks enters belongs to a
value that fails the rule of its own node.
-/

namespace Asn1Constraints

namespace Shape

variable {Node : Type}

/-- What a shape asks of a value apart from the parts. -/
def Fits : Shape Node → Value → Prop
  | .integer bounds, .integer n => bounds.min ≤ n ∧ n ≤ bounds.max
  | .real bounds, .real x =>
    x.isNaN = false ∧ bounds.min.rank ≤ x.rank ∧ x.rank ≤ bounds.max.rank
  | .boolean, .boolean _ => True
  | .null, .null => True
  | .enumerated items, .enumerated n => n ∈ items.map (·.value)
  | .octetString size, .octetString bytes =>
    size.minSize.toNat ≤ bytes.length ∧ bytes.length ≤ size.maxSize.toNat
  | .bitString size, .bitString bits =>
    size.minSize.toNat ≤ bits.length ∧ bits.length ≤ size.maxSize.toNat
  | .ia5String size, .ia5String text =>
    (∀ c ∈ text.toList, c.toNat ≤ 127) ∧
      size.minSize.toNat ≤ text.length ∧ text.length ≤ size.maxSize.toNat
  | .sequenceOf size _, .sequenceOf items =>
    size.minSize.toNat ≤ items.length ∧ items.length ≤ size.maxSize.toNat
  | .sequence components, .sequence values =>
    (∀ component ∈ components, component.optional = false →
        component.name ∈ values.map (·.1)) ∧
      (∀ name ∈ values.map (·.1), name ∈ components.map (·.name)) ∧
      (values.map (·.1)).Nodup
  | .choice alternatives, .choice selected _ => selected ∈ alternatives.map (·.name)
  | _, _ => False

/-- The value is of the kind of the shape. -/
inductive OfKind : Shape Node → Value → Prop where
  | integer (bounds : IntegerBounds) (n : Int64) : OfKind (.integer bounds) (.integer n)
  | real (bounds : RealBounds) (x : Binary64) : OfKind (.real bounds) (.real x)
  | boolean (b : Bool) : OfKind .boolean (.boolean b)
  | null : OfKind .null .null
  | enumerated (items : List EnumItem) (n : Int64) : OfKind (.enumerated items) (.enumerated n)
  | octetString (size : SizeBounds) (bytes : List UInt8) :
      OfKind (.octetString size) (.octetString bytes)
  | bitString (size : SizeBounds) (bits : List Bool) : OfKind (.bitString size) (.bitString bits)
  | ia5String (size : SizeBounds) (text : String) : OfKind (.ia5String size) (.ia5String text)
  | sequenceOf (size : SizeBounds) (element : Node) (items : List Value) :
      OfKind (.sequenceOf size element) (.sequenceOf items)
  | sequence (components : List (Component Node)) (values : List (String × Value)) :
      OfKind (.sequence components) (.sequence values)
  | choice (alternatives : List (Alternative Node)) (name : String) (content : Value) :
      OfKind (.choice alternatives) (.choice name content)

theorem Fits.ofKind {shape : Shape Node} {value : Value} (fits : shape.Fits value) :
    shape.OfKind value := by
  cases shape <;> cases value <;> first | constructor | exact fits.elim

/-- Which part of the shape each part of a value falls under. -/
def Assigns : Shape Node → Value → Node → Value → Prop
  | .sequenceOf _ element, .sequenceOf items, part, content => content ∈ items ∧ part = element
  | .sequence components, .sequence values, part, content =>
    ∃ component ∈ components, (component.name, content) ∈ values ∧ part = component.type
  | .choice alternatives, .choice selected inner, part, content =>
    ∃ alternative ∈ alternatives,
      selected = alternative.name ∧ content = inner ∧ part = alternative.type
  | _, _, _, _ => False

end Shape

/-- The values of a type. A boolean or null without an id asks for nothing. -/
inductive Conforms (module : TypeModule) : TypeNode → Value → Prop where
  | reference {id target assignment value} :
      module.find? target = some assignment → Conforms module assignment.type value →
      Conforms module (.reference id target) value
  | unchecked {shape value} :
      shape = .boolean ∨ shape = .null → Conforms module (.shaped 0 shape) value
  | shaped {id shape value} :
      shape.Fits value →
      (∀ part content, shape.Assigns value part content → Conforms module part content) →
      Conforms module (.shaped id shape) value

theorem Shape.assigned_mem_parts {Node : Type} {shape : Shape Node} {value content : Value}
    {part : Node} (assigned : shape.Assigns value part content) : part ∈ shape.parts := by
  cases shape <;> cases value <;> simp only [Assigns] at assigned <;> try contradiction
  case sequenceOf.sequenceOf => simp [parts, assigned.2]
  case sequence.sequence =>
    obtain ⟨component, declared, _, rfl⟩ := assigned
    exact List.mem_map_of_mem declared
  case choice.choice =>
    obtain ⟨alternative, declared, _, _, rfl⟩ := assigned
    exact List.mem_map_of_mem declared

theorem Conforms.of_bare {module : TypeModule} {id : ConstraintId} {shape : Shape TypeNode}
    {value : Value} (bare : shape.parts = []) (fits : shape.Fits value) :
    Conforms module (.shaped id shape) value := by
  refine .shaped fits fun part content assigned => ?_
  have inside := Shape.assigned_mem_parts assigned
  simp [bare] at inside

/-! Rules. -/

theorem findingUnless_eq_none_iff (met : Bool) (finding : Finding) :
    findingUnless met finding = none ↔ met = true := by
  cases met <;> simp [findingUnless]

theorem RealBounds.contains_iff (bounds : RealBounds) (low : bounds.min.isNaN = false)
    (high : bounds.max.isNaN = false) (x : Binary64) :
    bounds.contains x = true ↔
      x.isNaN = false ∧ bounds.min.rank ≤ x.rank ∧ x.rank ≤ bounds.max.rank := by
  cases nan : x.isNaN <;> simp [contains, Binary64.atMost, low, high, nan]

theorem SizeBounds.contains_iff (size : SizeBounds) (length : Nat) :
    size.contains length = true ↔ size.minSize.toNat ≤ length ∧ length ≤ size.maxSize.toNat := by
  simp [contains]

namespace CheckRule

theorem textFinding?_eq_none_iff (size : SizeBounds) (text : String) :
    textFinding? size text = none ↔ (∀ c ∈ text.toList, c.toNat ≤ 127) ∧
      size.minSize.toNat ≤ text.length ∧ text.length ≤ size.maxSize.toNat := by
  have ascii : text.toList.find? (!isIa5 ·) = none ↔ ∀ c ∈ text.toList, c.toNat ≤ 127 := by
    simp [isIa5, Nat.lt_succ_iff]
  rw [textFinding?, ← ascii, ← SizeBounds.contains_iff]
  cases text.toList.find? (!isIa5 ·) with
  | none => simp [findingUnless_eq_none_iff]
  | some c => simp

theorem componentsFinding?_eq_none_iff (mandatory declared names : List String) :
    componentsFinding? mandatory declared names = none ↔
      (∀ name ∈ mandatory, name ∈ names) ∧ (∀ name ∈ names, name ∈ declared) ∧ names.Nodup := by
  have present : mandatory.find? (!names.contains ·) = none ↔ ∀ name ∈ mandatory, name ∈ names := by
    simp
  have known : names.find? (!declared.contains ·) = none ↔ ∀ name ∈ names, name ∈ declared := by
    simp
  have unique : repeatedName? [] names = none ↔ names.Nodup := by
    simp [repeatedName?_eq_none_iff]
  rw [componentsFinding?, ← present, ← known, ← unique]
  cases mandatory.find? (!names.contains ·) with
  | some name => simp
  | none => cases names.find? (!declared.contains ·) <;> simp

end CheckRule

namespace Shape

variable {Node : Type}

/-- The rule of a shape is met by what fits the shape. -/
theorem rule_met_iff (shape : Shape Node) (sound : shape.Sound) (value : Value) :
    shape.rule.finding? value = none ↔ shape.Fits value := by
  cases shape with
  | integer bounds =>
      cases value <;>
        simp [rule, CheckRule.finding?, Fits, findingUnless_eq_none_iff, IntegerBounds.contains]
  | real bounds =>
      cases value <;>
        simp [rule, CheckRule.finding?, Fits, findingUnless_eq_none_iff,
          bounds.contains_iff sound.1 sound.2.1]
  | enumerated items =>
      cases value <;> simp [rule, CheckRule.finding?, Fits, findingUnless_eq_none_iff]
  | ia5String size =>
      cases value <;> simp [rule, CheckRule.finding?, Fits, CheckRule.textFinding?_eq_none_iff]
  | sequence components =>
      cases value with
      | sequence values =>
          have mandatory : (∀ name ∈ (components.filter (!·.optional)).map (·.name),
              name ∈ values.map (·.1)) ↔ ∀ component ∈ components, component.optional = false →
              component.name ∈ values.map (·.1) := by
            rw [List.forall_mem_map]
            simp only [List.mem_filter, and_imp, Bool.not_eq_true']
          rw [rule, CheckRule.finding?, CheckRule.componentsFinding?_eq_none_iff, mandatory, Fits]
      | _ => simp [rule, CheckRule.finding?, Fits]
  | choice alternatives =>
      cases value <;> simp [rule, CheckRule.finding?, Fits, findingUnless_eq_none_iff]
  | boolean => cases value <;> simp [rule, CheckRule.finding?, Fits]
  | null => cases value <;> simp [rule, CheckRule.finding?, Fits]
  | _ =>
      cases value <;>
        simp [rule, CheckRule.finding?, CheckRule.sizeFinding?, Fits, findingUnless_eq_none_iff,
          SizeBounds.contains_iff]

/-- Where a value fits, the segments of the parts lead to what falls under them. -/
theorem assigns_iff (shape : Shape Node) (value : Value) (fits : shape.Fits value) (part : Node)
    (content : Value) :
    shape.Assigns value part content ↔ ∃ branch ∈ shape.branches,
      ∃ target ∈ branch.1.targets value, content = target.2 ∧ part = branch.2 := by
  cases fits.ofKind with
  | sequenceOf size element items =>
      have indexed : content ∈ items ↔ ∃ index, (content, index) ∈ items.zipIdx := by
        simp [List.mem_iff_getElem?]
      simp [Assigns, branches, PathSegment.targets, indexed]
  | sequence components values =>
      -- No name repeats in a value that fits, so the first of a name is the only one.
      have first : ∀ name, (name, content) ∈ values ↔ values.lookup name = some content :=
        fun name => ⟨lookup_of_mem fits.2.2, mem_of_lookup⟩
      simp [Assigns, branches, PathSegment.targets, first]
  | choice alternatives selected inner =>
      simp [Assigns, branches, PathSegment.targets, and_assoc]
  | _ => simp [Assigns, branches]

end Shape

namespace TypeModule

theorem ownViolations_eq_nil_iff (id : ConstraintId) (place : String) (shape : Shape TypeNode)
    (sound : shape.Sound) (value : Value) :
    ownViolations id place shape.rule value = [] ↔ id = 0 ∨ shape.Fits value := by
  rw [← shape.rule_met_iff sound value]
  by_cases none : id = 0 <;> simp [ownViolations, none]

theorem conforms_reference_iff {module : TypeModule} (id : ConstraintId) (target : String)
    (assignment : TypeAssignment) (found : module.find? target = some assignment)
    (value : Value) :
    Conforms module (.reference id target) value ↔ Conforms module assignment.type value := by
  constructor
  · intro conforms
    cases conforms with
    | reference other inside =>
        obtain rfl := Option.some.inj (found.symm.trans other)
        exact inside
  · exact .reference found

/-- Conformance to a shape, by the segments that lead to its parts. -/
theorem conforms_shaped_iff {module : TypeModule} (id : ConstraintId) (shape : Shape TypeNode)
    (plain : id = 0 → shape = .boolean ∨ shape = .null) (value : Value) :
    Conforms module (.shaped id shape) value ↔
      (∀ branch ∈ shape.branches, ∀ target ∈ branch.1.targets value,
        Conforms module branch.2 target.2) ∧ (id = 0 ∨ shape.Fits value) := by
  constructor
  · intro conforms
    cases conforms with
    | unchecked leaf =>
        refine ⟨?_, .inl rfl⟩
        rcases leaf with rfl | rfl <;> simp [Shape.branches]
    | shaped fits parts =>
        refine ⟨?_, .inr fits⟩
        intro branch isBranch target isTarget
        exact parts _ _ ((shape.assigns_iff value fits _ _).mpr
          ⟨branch, isBranch, target, isTarget, rfl, rfl⟩)
  · rintro ⟨below, unset | fits⟩
    · subst unset
      exact .unchecked (plain rfl)
    · apply Conforms.shaped fits
      intro part content assigned
      obtain ⟨branch, isBranch, target, isTarget, rfl, rfl⟩ :=
        (shape.assigns_iff value fits part content).mp assigned
      exact below branch isBranch target isTarget

theorem WellFormed.no_reports_iff_conforms {module : TypeModule} (wellFormed : module.WellFormed)
    (node : TypeNode) (sound : node.AllSound module) :
    ∀ place value,
      reports (module.checksOf node) place value = [] ↔ Conforms module node value := by
  apply wellFormed.induction ?_ ?_ node sound
  · intro id target assignment found ih place value
    rw [wellFormed.checksOf_reference id target assignment found, ih,
      conforms_reference_iff id target assignment found]
  · intro id shape sound ih place value
    obtain ⟨plain, shapeSound⟩ := sound _ (TypeNode.self_mem_nodes _)
    -- A part is at a place of its own, but whether anything is reported of it is not.
    have inside : (∀ branch ∈ shape.branches, module.branchReports place value branch = []) ↔
        ∀ branch ∈ shape.branches, ∀ target ∈ branch.1.targets value,
          Conforms module branch.2 target.2 := by
      apply forall₂_congr
      intro branch isBranch
      rw [branchReports, List.flatMap_eq_nil_iff]
      simp only [ih branch.2 (shape.branch_mem_parts branch isBranch)]
    rw [wellFormed.reports_shaped id shape sound, List.append_eq_nil_iff, List.flatMap_eq_nil_iff,
      inside, ownViolations_eq_nil_iff id place shape shapeSound,
      conforms_shaped_iff id shape plain]

/-- One plan serves all values of a declared type. -/
theorem WellFormed.accepting_plan {module : TypeModule} (wellFormed : module.WellFormed)
    (accepted : module.validate = .ok ()) (assignment : TypeAssignment)
    (declared : assignment ∈ module.types) :
    ∃ plan, module.compile assignment.name = .ok plan ∧
      ∀ value, plan.validate value = .ok () ↔ Conforms module assignment.type value := by
  obtain ⟨resolved, _, compiled⟩ := wellFormed.compile_ok accepted assignment declared
  refine ⟨_, compiled, fun value => ?_⟩
  rw [ValidationPlan.validate_ok_iff_no_reports]
  exact wellFormed.no_reports_iff_conforms assignment.type
    (wellFormed.allSound assignment declared) "$" value

/-- The plan of a declared type accepts the values that conform to the type,
and no others. -/
theorem compile_accepts_conforming (module : TypeModule) (accepted : module.validate = .ok ())
    (assignment : TypeAssignment) (declared : assignment ∈ module.types) (value : Value) :
    ∃ plan, module.compile assignment.name = .ok plan ∧
      (plan.validate value = .ok () ↔ Conforms module assignment.type value) := by
  have wellFormed := wellFormed_of_validate accepted
  obtain ⟨resolved, _, compiled⟩ := wellFormed.compile_ok accepted assignment declared
  refine ⟨_, compiled, ?_⟩
  rw [ValidationPlan.validate_ok_iff_no_reports]
  exact wellFormed.no_reports_iff_conforms assignment.type
    (wellFormed.allSound assignment declared) "$" value

def pair : TypeAssignment :=
  ⟨"Pair", .shaped 1 (.sequence [⟨"code", false, .reference 0 "Code"⟩,
    ⟨"number", true, .shaped 2 (.integer ⟨1, 9⟩)⟩])⟩

/-- A short code with a number that may be left out. -/
def pairs : TypeModule :=
  ⟨modelVersion, "Pairs", [pair, ⟨"Code", .shaped 3 (.ia5String ⟨1, 2⟩)⟩]⟩

theorem pairs_accept_conforming :
    pairs.validate = .ok () ∧ pair ∈ pairs.types ∧
      ∃ plan, pairs.compile pair.name = .ok plan ∧
        (plan.validate (.sequence [("code", .ia5String "A")]) = .ok () ↔
          Conforms pairs pair.type (.sequence [("code", .ia5String "A")])) :=
  ⟨rfl, List.mem_cons_self, compile_accepts_conforming pairs rfl pair List.mem_cons_self _⟩

end TypeModule

end Asn1Constraints
