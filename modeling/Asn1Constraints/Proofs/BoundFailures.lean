import Asn1Constraints.Proofs.ReadValues
import Mathlib

/-!
What can be wrong with a value that was read. Reading settles kinds, items,
alternatives and the names of components, so each violation is one of bounds:
of a number, of a size, of a character set, or a mandatory component that the
document does not have.
-/

namespace Asn1Constraints

def SizeBounds.Excludes (size : SizeBounds) (length : Nat) : Prop :=
  length < size.minSize.toNat ∨ size.maxSize.toNat < length

/-- The length of a value in its own unit. -/
def SizeUnit.length? : SizeUnit → Value → Option Nat
  | .bytes, .octetString octets => some octets.length
  | .bits, .bitString flags => some flags.length
  | .elements, .sequenceOf items => some items.length
  | _, _ => none

/-- A value of the kind the rule is about that fails its bounds, and what is found. -/
inductive OutOfBounds : CheckRule → Value → Finding → Prop where
  | integer {bounds n} :
      n < bounds.min ∨ bounds.max < n →
      OutOfBounds (.integerRange bounds) (.integer n) (.integer n)
  | real {bounds x} :
      x.rank < bounds.min.rank ∨ bounds.max.rank < x.rank →
      OutOfBounds (.realRange bounds) (.real x) (.real x)
  | size {size unit value length} :
      unit.length? value = some length → size.Excludes length →
      OutOfBounds (.size size unit) value (.size length unit)
  | characters {size text} :
      size.Excludes text.length →
      OutOfBounds (.characterString size) (.ia5String text) (.characters text.length)
  | foreign {size text c} :
      c ∈ text.toList → 127 < c.toNat →
      OutOfBounds (.characterString size) (.ia5String text) (.foreignCharacter c)
  | missing {mandatory declared components name} :
      name ∈ mandatory → name ∉ components.map (·.1) →
      OutOfBounds (.mandatoryFields mandatory declared) (.sequence components)
        (.missingComponent name)

/-- Neither kinds nor declared names are a matter of bounds. -/
theorem OutOfBounds.spares {rule : CheckRule} {value : Value} {found : Finding}
    (outside : OutOfBounds rule value found) :
    (∀ values, rule ≠ .enumeratedValues values) ∧ rule ≠ .isBoolean ∧ rule ≠ .isNull ∧
      (∀ names, rule ≠ .singleAlternative names) ∧ (∀ other, found ≠ .wrongKind other) ∧
      (∀ name, found ≠ .undeclaredComponent name) ∧ ∀ name, found ≠ .repeatedComponent name := by
  cases outside <;> simp

/-! Rules. -/

theorem findingUnless_eq_some_iff (met : Bool) (finding found : Finding) :
    findingUnless met finding = some found ↔ met ≠ true ∧ finding = found := by
  cases met <;> simp [findingUnless]

theorem SizeBounds.excludes_iff (size : SizeBounds) (length : Nat) :
    size.Excludes length ↔ size.contains length ≠ true := by
  rw [Ne, size.contains_iff, Excludes]
  omega

namespace CheckRule

theorem textFinding?_fails {size : SizeBounds} {text : String} {found : Finding}
    (fails : textFinding? size text = some found) :
    OutOfBounds (.characterString size) (.ia5String text) found := by
  rw [textFinding?] at fails
  cases foreign : text.toList.find? (!isIa5 ·) with
  | some c =>
      rw [foreign] at fails
      obtain rfl := Option.some.inj fails
      have outside : 128 ≤ c.toNat := by simpa [isIa5] using List.find?_some foreign
      exact .foreign (List.mem_of_find?_eq_some foreign) outside
  | none =>
      rw [foreign] at fails
      obtain ⟨excluded, rfl⟩ := (findingUnless_eq_some_iff _ _ _).mp fails
      exact .characters ((size.excludes_iff _).mpr excluded)

theorem sizeFinding?_fails {size : SizeBounds} {unit : SizeUnit} {value : Value} {length : Nat}
    (measured : unit.length? value = some length) {found : Finding}
    (fails : sizeFinding? size unit value = some found) :
    OutOfBounds (.size size unit) value found := by
  have own : sizeFinding? size unit value =
      findingUnless (size.contains length) (.size length unit) := by
    cases unit <;> cases value <;> cases measured <;> rfl
  obtain ⟨excluded, rfl⟩ := (findingUnless_eq_some_iff _ _ _).mp (own.symm.trans fails)
  exact .size measured ((size.excludes_iff _).mpr excluded)

/-- Where all names are declared and none is repeated, only a mandatory one can be wrong. -/
theorem componentsFinding?_fails {mandatory declared : List String}
    {components : List (String × Value)} (known : ∀ name ∈ components.map (·.1), name ∈ declared)
    (unique : (components.map (·.1)).Nodup) {found : Finding}
    (fails : componentsFinding? mandatory declared (components.map (·.1)) = some found) :
    OutOfBounds (.mandatoryFields mandatory declared) (.sequence components) found := by
  have others : (components.map (·.1)).find? (!declared.contains ·) = none := by
    rw [List.find?_eq_none]
    intro name present
    simpa using known name present
  have single : repeatedName? [] (components.map (·.1)) = none := by
    simpa [repeatedName?_eq_none_iff] using unique
  rw [componentsFinding?, others, single] at fails
  cases absent : mandatory.find? (!(components.map (·.1)).contains ·) with
  | none =>
      rw [absent] at fails
      cases fails
  | some name =>
      rw [absent] at fails
      obtain rfl := Option.some.inj fails
      have missing : name ∉ components.map (·.1) := by
        intro present
        have other := List.find?_some absent
        simp only [Bool.not_eq_true', List.contains_eq_mem, decide_eq_false_iff_not] at other
        exact other present
      exact .missing (List.mem_of_find?_eq_some absent) missing

end CheckRule

namespace Shape

variable {Node : Type}

/-- A value of the form of a shape can only be out of the bounds of the shape. -/
theorem rule_fails (shape : Shape Node) (sound : shape.Sound) {value : Value}
    (admits : shape.Admits value) {found : Finding}
    (fails : shape.rule.finding? value = some found) : OutOfBounds shape.rule value found := by
  cases admits.ofKind with
  | integer bounds n =>
      obtain ⟨excluded, rfl⟩ := (findingUnless_eq_some_iff _ _ _).mp fails
      apply OutOfBounds.integer
      have outside : bounds.min ≤ n → bounds.max < n := by
        simpa [IntegerBounds.contains, Int64.not_le] using excluded
      by_cases above : bounds.min ≤ n
      · exact .inr (outside above)
      · exact .inl (Int64.not_le.mp above)
  | real bounds x =>
      obtain ⟨excluded, rfl⟩ := (findingUnless_eq_some_iff _ _ _).mp fails
      apply OutOfBounds.real
      rw [Ne, bounds.contains_iff sound.1 sound.2.1] at excluded
      have number := Binary64.finite_not_nan admits
      by_cases above : bounds.min.rank ≤ x.rank
      · exact .inr (Int.not_le.mp fun below => excluded ⟨number, above, below⟩)
      · exact .inl (Int.not_le.mp above)
  | boolean b => cases fails
  | null => cases fails
  -- An item or an alternative of the form is a declared one, so nothing is found.
  | enumerated items n =>
      obtain ⟨excluded, _⟩ := (findingUnless_eq_some_iff _ _ _).mp fails
      exact absurd (List.contains_iff_mem.mpr admits) excluded
  | choice alternatives name content =>
      obtain ⟨excluded, _⟩ := (findingUnless_eq_some_iff _ _ _).mp fails
      exact absurd (List.contains_iff_mem.mpr admits) excluded
  | octetString size bytes => exact CheckRule.sizeFinding?_fails rfl fails
  | bitString size bits => exact CheckRule.sizeFinding?_fails rfl fails
  | sequenceOf size element items => exact CheckRule.sizeFinding?_fails rfl fails
  | ia5String size text => exact CheckRule.textFinding?_fails fails
  | sequence components values =>
      exact CheckRule.componentsFinding?_fails (fun _ present => admits.subset present)
        (admits.nodup sound) fails

/-- Wherever a segment of a part leads, the part is what it leads to. -/
theorem target_assigned (shape : Shape Node) {value : Value} {branch : PathSegment × Node}
    (isBranch : branch ∈ shape.branches) {target : List Nat × Value}
    (isTarget : target ∈ branch.1.targets value) : shape.Assigns value branch.2 target.2 := by
  cases shape with
  | sequenceOf size element =>
      obtain rfl := List.mem_singleton.mp isBranch
      cases value with
      | sequenceOf items =>
          obtain ⟨entry, indexed, rfl⟩ := List.mem_map.mp isTarget
          exact ⟨List.fst_mem_of_mem_zipIdx indexed, rfl⟩
      | _ => cases isTarget
  | sequence components =>
      obtain ⟨component, declared, rfl⟩ := List.mem_map.mp isBranch
      cases value with
      | sequence values =>
          obtain ⟨part, found, rfl⟩ := List.mem_map.mp isTarget
          exact ⟨component, declared, mem_of_lookup (Option.mem_toList.mp found), rfl⟩
      | _ => cases isTarget
  | choice alternatives =>
      obtain ⟨alternative, declared, rfl⟩ := List.mem_map.mp isBranch
      cases value with
      | choice name content =>
          rw [PathSegment.targets] at isTarget
          split at isTarget
          · rename_i selected
            obtain rfl := List.mem_singleton.mp isTarget
            exact ⟨alternative, declared, selected, rfl, rfl⟩
          · cases isTarget
      | _ => cases isTarget
  | _ => cases isBranch

end Shape

namespace TypeModule

/-- What is reported of a value of the form of a node is out of the bounds of a
node below, and of the value that stands there. -/
theorem WellFormed.typed_reports {module : TypeModule} (wellFormed : module.WellFormed)
    (node : TypeNode) (sound : node.AllSound module) :
    ∀ place value, Typed module node value →
      ∀ violation ∈ reports (module.checksOf node) place value, ∃ id shape content,
        Occurs module node value (.shaped id shape) content ∧ violation.id = id ∧
          violation.rule = shape.rule ∧ OutOfBounds shape.rule content violation.found := by
  apply wellFormed.induction ?_ ?_ node sound
  · intro id target assignment found ih place value typed violation reported
    rw [wellFormed.checksOf_reference id target assignment found] at reported
    obtain ⟨inner, shape, content, below, rest⟩ :=
      ih place value ((Typed.reference_iff found).mp typed) violation reported
    exact ⟨inner, shape, content, .reference found below, rest⟩
  · intro id shape sound ih place value typed violation reported
    obtain ⟨admits, parts⟩ := Typed.shaped_iff.mp typed
    rw [wellFormed.reports_shaped id shape sound] at reported
    -- What is reported comes from a part, and occurs there, or is found at the node itself.
    rcases List.mem_append.mp reported with below | own
    · obtain ⟨branch, isBranch, within⟩ := List.mem_flatMap.mp below
      obtain ⟨target, isTarget, inside⟩ := List.mem_flatMap.mp within
      have assigned := shape.target_assigned isBranch isTarget
      obtain ⟨inner, other, content, under, rest⟩ := ih branch.2
        (shape.branch_mem_parts branch isBranch) _ target.2 (parts _ _ assigned) violation inside
      exact ⟨inner, other, content, .part assigned under, rest⟩
    · rw [ownViolations] at own
      split at own
      · cases own
      · obtain ⟨found, fails, rfl⟩ := List.mem_map.mp own
        have shapeSound := (sound _ (TypeNode.self_mem_nodes _)).2
        exact ⟨id, shape, value, .here, rfl, rfl,
          shape.rule_fails shapeSound admits (Option.mem_toList.mp fails)⟩

/-- Each violation of a value that was read is one of bounds. No value is of the
wrong kind, no item, alternative or component is an undeclared one, and no
component is there twice. -/
theorem read_value_fails_bounds_only (module : TypeModule) (accepted : module.validate = .ok ())
    (assignment : TypeAssignment) (declared : assignment ∈ module.types) :
    ∃ plan, module.compile assignment.name = .ok plan ∧
      ∀ json value, Value.ofJson module assignment.type json = .ok value →
        ∀ violation ∈ plan.validateAll value,
          (∃ id shape content, Occurs module assignment.type value (.shaped id shape) content ∧
            violation.id = id ∧ violation.rule = shape.rule ∧
              OutOfBounds shape.rule content violation.found) ∧
          (∀ values, violation.rule ≠ .enumeratedValues values) ∧ violation.rule ≠ .isBoolean ∧
          violation.rule ≠ .isNull ∧ (∀ names, violation.rule ≠ .singleAlternative names) ∧
          (∀ other, violation.found ≠ .wrongKind other) ∧
          (∀ name, violation.found ≠ .undeclaredComponent name) ∧
          ∀ name, violation.found ≠ .repeatedComponent name := by
  have wellFormed := wellFormed_of_validate accepted
  have sound := wellFormed.allSound assignment declared
  obtain ⟨resolved, _, compiled⟩ := wellFormed.compile_ok accepted assignment declared
  refine ⟨_, compiled, fun json value read violation reported => ?_⟩
  rw [ValidationPlan.validateAll_eq_reports] at reported
  have typed := wellFormed.read_typed assignment.type sound "$" json value read
  obtain ⟨id, shape, content, occurs, named, ruled, outside⟩ :=
    wellFormed.typed_reports assignment.type sound "$" value typed violation reported
  refine ⟨⟨id, shape, content, occurs, named, ruled, outside⟩, ?_⟩
  rw [ruled]
  exact outside.spares

/-- The entry without its flag was read, and the flag is all that is missing. -/
theorem unflagged_fails_bounds_only :
    flags.validate = .ok () ∧ entry ∈ flags.types ∧
      Value.ofJson flags entry.type unflagged = .ok unflaggedValue ∧
      ∃ plan, flags.compile entry.name = .ok plan ∧
        ∃ violation ∈ plan.validateAll unflaggedValue, ∃ id shape content,
          Occurs flags entry.type unflaggedValue (.shaped id shape) content ∧
            violation.id = id ∧ violation.rule = shape.rule ∧
              OutOfBounds shape.rule content violation.found := by
  have within : entry ∈ flags.types := by simp [flags]
  obtain ⟨plan, compiled, only⟩ := read_value_fails_bounds_only flags rfl entry within
  have planned : flags.compile entry.name = .ok _ := rfl
  have read : Value.ofJson flags entry.type unflagged = .ok unflaggedValue := rfl
  have reported : ⟨1, "$", .mandatoryFields ["set"] ["set", "level"], .missingComponent "set"⟩ ∈
      plan.validateAll unflaggedValue := by
    obtain rfl := Except.ok.inj (planned.symm.trans compiled)
    exact List.mem_cons_self
  obtain ⟨out, _⟩ := only unflagged unflaggedValue read _ reported
  exact ⟨rfl, within, read, plan, compiled, _, reported, out⟩

end TypeModule

end Asn1Constraints
