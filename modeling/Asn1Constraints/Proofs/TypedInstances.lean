import Asn1Constraints.Proofs.DrawnInstances
import Asn1Constraints.Proofs.TypedValues
import Mathlib

/-!
Built and drawn instances have the form that documents are read into. Whoever
goes through the components in order gives them in that order, items and
alternatives are picked from the declared ones, and a real between finite bounds
is finite. Lengths and bounds do not matter here.
-/

namespace Asn1Constraints

variable {σ : Type} {module : TypeModule} {id : ConstraintId}

theorem Filled.typed {components : List (Component TypeNode)} {values : List (String × Value)}
    (filled : Filled (Typed module) components values)
    (distinct : (components.map (·.name)).Nodup) :
    Typed module (.shaped id (.sequence components)) (.sequence values) :=
  .shaped filled.names_sublist (filled.assigned distinct)

/-- The alternatives have distinct names, so only the selected one is filled. -/
theorem Typed.choice {alternatives : List (Alternative TypeNode)}
    (distinct : (alternatives.map (·.name)).Nodup) {alternative : Alternative TypeNode}
    (declared : alternative ∈ alternatives) {content : Value}
    (typed : Typed module alternative.type content) :
    Typed module (.shaped id (.choice alternatives)) (.choice alternative.name content) := by
  refine .shaped (List.mem_map_of_mem declared) ?_
  rintro part inside ⟨other, among, named, rfl, rfl⟩
  obtain rfl := List.inj_on_of_nodup_map distinct declared among named
  exact typed

theorem Typed.sequenceOf {size : SizeBounds} {element : TypeNode} {items : List Value}
    (each : ∀ item ∈ items, Typed module element item) :
    Typed module (.shaped id (.sequenceOf size element)) (.sequenceOf items) := by
  refine .shaped trivial ?_
  rintro part content ⟨member, rfl⟩
  exact each content member

/-! Default instances. -/

/-- The values that are built for a node have its form. -/
def BuildsTyped (module : TypeModule) (node : TypeNode) : Prop :=
  ∀ value, (module.unfold node).defaultInstance module.name = .ok value → Typed module node value

namespace BuildsTyped

theorem components (components : List (Component TypeNode))
    (each : ∀ component ∈ components, BuildsTyped module component.type)
    (values : List (String × Value))
    (built : TypeTree.defaultComponents module.name (components.map fun component =>
      ⟨component.name, component.optional, fun _ => module.unfold component.type⟩) = .ok values) :
    Filled (Typed module) components values := by
  induction components generalizing values with
  | nil =>
      cases built
      exact .nil
  | cons component rest ih =>
      obtain ⟨own, others⟩ := List.forall_mem_cons.mp each
      obtain ⟨name, optional, type⟩ := component
      cases optional with
      | true => exact .absent rfl (ih others values built)
      | false =>
          simp only [List.map_cons, TypeTree.defaultComponents] at built
          split at built
          · cases built
          · rename_i value first
            obtain ⟨later, after, rfl⟩ := map_ok_iff.mp built
            exact .present (own value first) (ih others later after)

theorem sequenceOf {size : SizeBounds} {element : TypeNode} (typed : BuildsTyped module element)
    (value : Value) (built : TypeTree.defaultOfShape module.name
      (.sequenceOf size fun _ => module.unfold element) = .ok value) :
    Typed module (.shaped id (.sequenceOf size element)) value := by
  rw [TypeTree.defaultOfShape] at built
  split at built
  · cases built
  · cases built
    exact .sequenceOf (by simp)
  · obtain ⟨item, one, rfl⟩ := map_ok_iff.mp built
    refine .sequenceOf fun content member => ?_
    rw [List.eq_of_mem_replicate member]
    exact typed item one

theorem shaped (id : ConstraintId) (shape : Shape TypeNode) (sound : shape.Sound)
    (finite : ∀ bounds, shape = .real bounds →
      bounds.min.isFinite = true ∧ bounds.max.isFinite = true)
    (each : ∀ part ∈ shape.parts, BuildsTyped module part) (value : Value)
    (built : TypeTree.defaultOfShape module.name
      (shape.map fun part _ => module.unfold part) = .ok value) :
    Typed module (.shaped id shape) value := by
  cases shape with
  | integer bounds =>
      cases built
      exact .of_bare rfl trivial
  | real bounds =>
      cases built
      exact .of_bare rfl (finite bounds rfl).1
  | boolean =>
      cases built
      exact .of_bare rfl trivial
  | null =>
      cases built
      exact .of_bare rfl trivial
  | enumerated items =>
      obtain ⟨first, rest, rfl⟩ := List.exists_cons_of_ne_nil sound.1
      cases built
      exact .of_bare rfl (by simp [Shape.Admits])
  | octetString size =>
      obtain ⟨length, _, rfl⟩ := map_ok_iff.mp built
      exact .of_bare rfl trivial
  | bitString size =>
      obtain ⟨length, _, rfl⟩ := map_ok_iff.mp built
      exact .of_bare rfl trivial
  | ia5String size =>
      obtain ⟨length, _, rfl⟩ := map_ok_iff.mp built
      exact .of_bare rfl trivial
  | sequenceOf size element =>
      exact sequenceOf (each element (by simp [Shape.parts])) value built
  | sequence components =>
      obtain ⟨values, listed, rfl⟩ := map_ok_iff.mp built
      have filled := BuildsTyped.components components
        (fun component member => each _ (List.mem_map_of_mem member)) values listed
      exact filled.typed sound
  | choice alternatives =>
      obtain ⟨first, rest, rfl⟩ := List.exists_cons_of_ne_nil sound.1
      obtain ⟨content, inside, rfl⟩ := map_ok_iff.mp built
      exact .choice sound.2 List.mem_cons_self
        (each first.type (List.mem_map_of_mem List.mem_cons_self) content inside)

end BuildsTyped

/-! Drawn instances. -/

/-- The values that are drawn for a node have its form. -/
def DrawsTyped (source : RandomSource σ) (options : TestCaseOptions) (module : TypeModule)
    (node : TypeNode) : Prop :=
  ∀ state, ((module.unfold node).draw source options module.name).Ends state
    (Typed module node) True

namespace RandomSource.Faithful

variable {source : RandomSource σ} (faithful : source.Faithful) {options : TestCaseOptions}

include faithful

/-- Pieces drawn one by one; how many there are is of no concern. -/
theorem pieces_typed {α : Type} {size : SizeBounds} (sound : size.minSize ≤ size.maxSize)
    {node : TypeNode} {piece : Draw σ α} {good : α → Prop} (make : List α → Value)
    (drawn : ∀ state, piece.Ends state good True)
    (typed : ∀ pieces, (∀ piece ∈ pieces, good piece) → Typed module node (make pieces))
    (state : σ) :
    (do
      let length ← source.drawLength options size
      return make (← Draw.many length piece)).Ends state (Typed module node) True := by
  have length := faithful.drawLength options size sound state
  refine .bind (length.blame fun _ => trivial) fun count next _ _ => ?_
  refine .bind (.many count fun now _ => drawn now) fun pieces _ _ each => .pure ?_
  exact typed pieces each.2

theorem shaped_typed (id : ConstraintId) (shape : Shape TypeNode) (sound : shape.Sound)
    (finite : ∀ bounds, shape = .real bounds →
      bounds.min.isFinite = true ∧ bounds.max.isFinite = true)
    (each : ∀ part ∈ shape.parts, DrawsTyped source options module part) (state : σ) :
    (drawShape source options module.name (shape.map fun part _ => module.unfold part)).Ends state
      (Typed module (.shaped id shape)) True := by
  cases shape with
  | integer bounds => exact .bind (.ask (.anything _)) fun _ _ _ _ => .pure (.of_bare rfl trivial)
  | real bounds =>
      obtain ⟨low, high⟩ := finite bounds rfl
      have drawn := faithful.drawReal options bounds low high sound.2.2
      refine .bind (.ask drawn) fun x _ _ within => .pure (.of_bare rfl ?_)
      exact Binary64.isFinite_of_between low high within.1 within.2.1 within.2.2
  | boolean => exact .bind (.ask (.anything _)) fun _ _ _ _ => .pure (.of_bare rfl trivial)
  | null => exact .pure (.of_bare rfl trivial)
  | enumerated items =>
      refine (faithful.drawItem items sound.1 state).weaken ?_ False.elim
      rintro value ⟨item, declared, rfl⟩
      exact .of_bare rfl (List.mem_map_of_mem declared)
  | octetString size =>
      refine faithful.pieces_typed sound .octetString (fun _ => .ask (.anything _))
        (fun _ _ => ?_) state
      exact .of_bare rfl trivial
  | bitString size =>
      refine faithful.pieces_typed sound .bitString (fun _ => .ask (.anything _))
        (fun _ _ => ?_) state
      exact .of_bare rfl trivial
  | ia5String size =>
      refine faithful.pieces_typed sound (fun characters => .ia5String (String.ofList characters))
        (fun _ => .ask (.anything _)) (fun _ _ => ?_) state
      exact .of_bare rfl trivial
  | sequenceOf size element =>
      exact faithful.pieces_typed sound .sequenceOf (each element (by simp [Shape.parts]))
        (fun _ => .sequenceOf) state
  | sequence components =>
      have drawn := Faithful.components (Typed module) (fun _ _ => True) components
        (fun component member => each _ (List.mem_map_of_mem member)) state
      refine .bind (drawn.blame fun _ => trivial) fun values _ _ filled => .pure ?_
      exact filled.typed sound
  | choice alternatives =>
      have drawn := faithful.alternatives (Typed module) (fun _ _ => True) sound.1
        (fun alternative member => each _ (List.mem_map_of_mem member)) state
      refine drawn.weaken ?_ fun _ => trivial
      rintro value ⟨alternative, declared, content, rfl, typed⟩
      exact .choice sound.2 declared typed

end RandomSource.Faithful

namespace TypeModule.WellFormed

variable (wellFormed : module.WellFormed) (finite : module.FiniteReals)
  (assignment : TypeAssignment) (declared : assignment ∈ module.types)

include wellFormed finite declared

theorem built_typed : BuildsTyped module assignment.type := by
  apply wellFormed.nodeInduction ?_ ?_ assignment declared
  · intro id target other found ih value built
    rw [unfold_reference wellFormed.acyclic id target other found] at built
    exact .reference found (ih value built)
  · intro id shape member sound ih value built
    rw [unfold_shaped, TypeTree.defaultInstance] at built
    refine BuildsTyped.shaped id shape sound ?_ ih value built
    rintro bounds rfl
    exact finite id bounds member

theorem drawn_typed {source : RandomSource σ} (faithful : source.Faithful)
    (options : TestCaseOptions) : DrawsTyped source options module assignment.type := by
  apply wellFormed.nodeInduction ?_ ?_ assignment declared
  · intro id target other found ih state
    rw [unfold_reference wellFormed.acyclic id target other found]
    exact (ih state).weaken (fun _ => .reference found) fun _ => trivial
  · intro id shape member sound ih state
    rw [unfold_shaped, TypeTree.draw]
    refine faithful.shaped_typed id shape sound ?_ ih state
    rintro bounds rfl
    exact finite id bounds member

end TypeModule.WellFormed

end Asn1Constraints
