import Asn1Constraints.Proofs.NormalForms
import Asn1Constraints.Proofs.WritableValues
import Mathlib

/-!
Values of the form that documents are read into. Each part is of the kind of its
node, its items, alternatives and components are declared ones, its reals are
finite, and components stand in the order of the declaration. Bounds do not
matter and mandatory components may be missing. Such a value can be written, is
its own normal form, and so reads back as it was.
-/

namespace Asn1Constraints

/-- What the form asks of a value apart from the parts. -/
def Shape.Admits {Node : Type} : Shape Node → Value → Prop
  | .integer _, .integer _ => True
  | .real _, .real x => x.isFinite = true
  | .boolean, .boolean _ => True
  | .null, .null => True
  | .enumerated items, .enumerated n => n ∈ items.map (·.value)
  | .octetString _, .octetString _ => True
  | .bitString _, .bitString _ => True
  | .ia5String _, .ia5String _ => True
  | .sequenceOf _ _, .sequenceOf _ => True
  | .sequence components, .sequence values =>
    (values.map (·.1)).Sublist (components.map (·.name))
  | .choice alternatives, .choice selected _ => selected ∈ alternatives.map (·.name)
  | _, _ => False

/-- The values of the form of a node. -/
inductive Typed (module : TypeModule) : TypeNode → Value → Prop where
  | reference {id target assignment value} :
      module.find? target = some assignment → Typed module assignment.type value →
      Typed module (.reference id target) value
  | shaped {id shape value} :
      shape.Admits value →
      (∀ part content, shape.Assigns value part content → Typed module part content) →
      Typed module (.shaped id shape) value

namespace Shape

variable {Node : Type}

theorem Admits.ofKind {shape : Shape Node} {value : Value} (admits : shape.Admits value) :
    shape.OfKind value := by
  cases shape <;> cases value <;> first | constructor | exact admits.elim

/-- In declaration order no component is there twice, since the declared names are distinct. -/
theorem Admits.settled {shape : Shape Node} (sound : shape.Sound) {value : Value}
    (admits : shape.Admits value) : shape.Settled value := by
  cases shape with
  | sequence components =>
      cases value with
      | sequence values => exact ⟨fun _ present => admits.subset present, admits.nodup sound⟩
      | _ => trivial
  | _ => trivial

end Shape

namespace Typed

variable {module : TypeModule} {id : ConstraintId} {value : Value}

theorem of_bare {shape : Shape TypeNode} (bare : shape.parts = []) (admits : shape.Admits value) :
    Typed module (.shaped id shape) value := by
  refine .shaped admits fun part content assigned => ?_
  have inside := Shape.assigned_mem_parts assigned
  simp [bare] at inside

theorem reference_iff {target : String} {assignment : TypeAssignment}
    (found : module.find? target = some assignment) :
    Typed module (.reference id target) value ↔ Typed module assignment.type value := by
  constructor
  · intro typed
    cases typed with
    | reference other inside =>
        obtain rfl := Option.some.inj (found.symm.trans other)
        exact inside
  · exact .reference found

theorem shaped_iff {shape : Shape TypeNode} :
    Typed module (.shaped id shape) value ↔ shape.Admits value ∧
      ∀ part content, shape.Assigns value part content → Typed module part content := by
  constructor
  · intro typed
    cases typed with
    | shaped admits parts => exact ⟨admits, parts⟩
  · rintro ⟨admits, parts⟩
    exact .shaped admits parts

end Typed

namespace Value

/-! Writing. -/

/-- A value of the form is written if its parts are. -/
theorem writeShape_written {part : PartWriter} (shape : Shape TypeNode) (place : String)
    (value : Value) (admits : shape.Admits value)
    (each : ∀ node content, shape.Assigns value node content →
      ∀ place, ∃ json, part place node content = .ok json) :
    ∃ json, writeShape part place shape value = .ok json := by
  cases admits.ofKind with
  | real bounds x => exact ⟨_, writeShape_ok_iff.mpr (.real x admits)⟩
  | enumerated items n =>
      obtain ⟨item, found⟩ := EnumItem.exists_byValue? admits
      exact ⟨_, writeShape_ok_iff.mpr (.enumerated found)⟩
  | sequenceOf size element items =>
      have listing : (∃ documents, writeElements part place element 0 items = .ok documents) ↔
          ∀ item ∈ items, True :=
        elements_written items (fun item member there =>
          iff_of_true (each element item ⟨member, rfl⟩ there) trivial) place 0
      obtain ⟨documents, listed⟩ := listing.mpr fun _ _ => trivial
      exact ⟨_, writeShape_ok_iff.mpr (.sequenceOf listed)⟩
  | sequence components values =>
      have listing : (∃ members, writeComponents part place values components = .ok members) ↔
          ∀ component ∈ components, ∀ value, values.lookup component.name = some value → True :=
        components_written (fun _ _ => True) values components
          (fun component declared content found there => iff_of_true (each component.type
            content ⟨component, declared, mem_of_lookup found, rfl⟩ there) trivial) place
      obtain ⟨members, listed⟩ := listing.mpr fun _ _ _ _ => trivial
      exact ⟨_, writeShape_ok_iff.mpr (.sequence listed)⟩
  | choice alternatives name content =>
      obtain ⟨alternative, selected⟩ := Alternative.exists_byName? admits
      obtain ⟨declared, named⟩ := Alternative.declared_of_byName? selected
      obtain ⟨document, first⟩ := each alternative.type content
        ⟨alternative, declared, named.symm, rfl, rfl⟩ s!"{place}.{name}"
      exact ⟨_, writeShape_ok_iff.mpr (.choice selected first)⟩
  | _ => exact ⟨_, rfl⟩

/-! Normal forms. -/

theorem arrangedNamed_absent {part : TypeNode → Value → Value} {component : Component TypeNode}
    {values : List (String × Value)} (absent : component.name ∉ values.map (·.1)) :
    arrangedNamed part component values = [] := by
  rw [arrangedNamed, List.map_eq_nil_iff, List.filter_eq_nil_iff]
  intro entry member named
  have same : entry.1 = component.name := by simpa using named
  exact absent (same ▸ List.mem_map_of_mem member)

/-- Components in declaration order are arranged already, if their parts are. -/
theorem arranged_of_sublist {part : TypeNode → Value → Value}
    {components : List (Component TypeNode)} {values : List (String × Value)}
    (ordered : (values.map (·.1)).Sublist (components.map (·.name)))
    (distinct : (components.map (·.name)).Nodup)
    (each : ∀ component ∈ components, ∀ value, (component.name, value) ∈ values →
      part component.type value = value) :
    arranged part components values = values := by
  have known : undeclared components values = [] := by
    rw [undeclared, List.filter_eq_nil_iff]
    intro entry member
    simpa [Component.byName?] using ordered.subset (List.mem_map_of_mem member)
  rw [arranged, known, List.append_nil]
  clear known
  induction components generalizing values with
  | nil =>
      have none : values = [] := by simpa using ordered
      simp [none]
  | cons component rest ih =>
      obtain ⟨fresh, others⟩ := List.nodup_cons.mp distinct
      obtain ⟨own, later⟩ := List.forall_mem_cons.mp each
      rw [List.flatMap_cons]
      -- Either the first component was left out, or it comes first.
      rcases List.sublist_cons_iff.mp ordered with after | ⟨names, split, after⟩
      · rw [arrangedNamed_absent fun present => fresh (after.subset present), ih after others later]
        rfl
      · obtain ⟨⟨name, value⟩, tail, rfl, rfl, rfl⟩ := List.map_eq_cons_iff.mp split
        have first : arrangedNamed part component ((component.name, value) :: tail) =
            [(component.name, value)] := by
          have rest : arrangedNamed part component tail = [] :=
            arrangedNamed_absent fun present => fresh (after.subset present)
          rw [arrangedNamed] at rest ⊢
          simp [own value List.mem_cons_self, rest]
        have skipped : ∀ other ∈ rest,
            arrangedNamed part other ((component.name, value) :: tail) =
              arrangedNamed part other tail := by
          intro other member
          have apart : component.name ≠ other.name :=
            fun same => fresh (List.mem_map.mpr ⟨other, member, same.symm⟩)
          simp [arrangedNamed, apart]
        rw [first, List.flatMap_congr skipped, ih after others fun other member content present =>
          later other member content (List.mem_cons_of_mem _ present)]
        rfl

theorem arrangedShape_of_admits {part : TypeNode → Value → Value} (shape : Shape TypeNode)
    (sound : shape.Sound) (value : Value) (admits : shape.Admits value)
    (each : ∀ node content, shape.Assigns value node content → part node content = content) :
    arrangedShape part shape value = value := by
  cases admits.ofKind with
  | sequenceOf size element items =>
      have same : items.map (part element) = items.map id :=
        List.map_congr_left fun item member => each element item ⟨member, rfl⟩
      rw [arrangedShape, same, List.map_id]
  | sequence components values =>
      have same := arranged_of_sublist admits sound fun component declared content member =>
        each component.type content ⟨component, declared, member, rfl⟩
      rw [arrangedShape, same]
  | choice alternatives name content =>
      obtain ⟨alternative, selected⟩ := Alternative.exists_byName? admits
      obtain ⟨declared, named⟩ := Alternative.declared_of_byName? selected
      have same := each alternative.type content ⟨alternative, declared, named.symm, rfl, rfl⟩
      rw [arrangedShape, selected]
      simp only
      rw [same]
  | _ => rfl

end Value

namespace TypeModule.WellFormed

variable {module : TypeModule} (wellFormed : module.WellFormed) (node : TypeNode)
  (sound : node.AllSound module)

include wellFormed sound

/-- A value of the form can be written at any place. -/
theorem typed_written : ∀ value, Typed module node value →
    ∀ place, ∃ json, Value.writePart module place node value = .ok json := by
  apply wellFormed.induction ?_ ?_ node sound
  · intro id target assignment found ih value typed place
    rw [Value.writePart_reference found]
    exact ih value ((Typed.reference_iff found).mp typed) place
  · intro id shape _ ih value typed place
    obtain ⟨admits, parts⟩ := Typed.shaped_iff.mp typed
    rw [Value.writePart_shaped]
    exact Value.writeShape_written shape place value admits fun part content assigned =>
      ih part (Shape.assigned_mem_parts assigned) content (parts part content assigned)

/-- A value of the form is its own normal form. -/
theorem typed_normal : ∀ value, Typed module node value →
    Value.normal module node value = value := by
  apply wellFormed.induction ?_ ?_ node sound
  · intro id target assignment found ih value typed
    rw [normal_reference found]
    exact ih value ((Typed.reference_iff found).mp typed)
  · intro id shape sound ih value typed
    obtain ⟨admits, parts⟩ := Typed.shaped_iff.mp typed
    rw [wellFormed.normal_shaped sound]
    exact Value.arrangedShape_of_admits shape (sound _ (TypeNode.self_mem_nodes _)).2 value admits
      fun part content assigned =>
        ih part (Shape.assigned_mem_parts assigned) content (parts part content assigned)

theorem typed_roundTrips : ∀ value, Typed module node value →
    Value.RoundTrips module node value := by
  apply wellFormed.induction ?_ ?_ node sound
  · intro id target assignment found ih value typed
    exact .reference found (ih value ((Typed.reference_iff found).mp typed))
  · intro id shape sound ih value typed
    obtain ⟨admits, parts⟩ := Typed.shaped_iff.mp typed
    have shapeSound := (sound _ (TypeNode.self_mem_nodes _)).2
    exact Value.shaped_back shape shapeSound value (admits.settled shapeSound)
      fun part content assigned =>
        ih part (Shape.assigned_mem_parts assigned) content (parts part content assigned)

/-- A value of the form has a document, and the document reads back as the value. -/
theorem typed_back (value : Value) (typed : Typed module node value) :
    ∃ json, value.toJson module node = .ok json ∧ Value.ofJson module node json = .ok value ∧
      value.normalized module node = .ok value := by
  have form := wellFormed.normalized_eq_normal node sound value
  rw [wellFormed.typed_normal node sound value typed] at form
  obtain ⟨json, written⟩ := wellFormed.typed_written node sound value typed "$"
  obtain ⟨normal, read, same⟩ :=
    wellFormed.typed_roundTrips node sound value typed "$" json written
  obtain rfl := Except.ok.inj (form.symm.trans same)
  exact ⟨json, written, read "$", form⟩

end TypeModule.WellFormed

end Asn1Constraints
