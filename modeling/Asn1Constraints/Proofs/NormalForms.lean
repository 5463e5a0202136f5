import Asn1Constraints.Proofs.Conformance
import Asn1Constraints.Proofs.JsonRoundTrip
import Asn1Constraints.Proofs.RoundedMagnitudes
import Mathlib

/-!
Normal forms. In a well-formed module every value has one, whether or not it is
valid; it is its own normal form, and it conforms where the value does. Values
that were read from a document hold no NaN, so each is the same as itself.
-/

namespace Asn1Constraints

namespace Value

/-! Normal forms as functions of the normal forms of the parts. -/

/-- The components of the declared name, each replaced by its normal form. -/
def arrangedNamed (part : TypeNode → Value → Value) (component : Component TypeNode)
    (values : List (String × Value)) : List (String × Value) :=
  (values.filter fun entry => entry.1 = component.name).map fun entry =>
    (entry.1, part component.type entry.2)

def arranged (part : TypeNode → Value → Value) (components : List (Component TypeNode))
    (values : List (String × Value)) : List (String × Value) :=
  (components.flatMap fun component => arrangedNamed part component values) ++
    undeclared components values

def arrangedShape (part : TypeNode → Value → Value) (shape : Shape TypeNode) (value : Value) :
    Value :=
  match shape, value with
  | .sequenceOf _ element, .sequenceOf items => .sequenceOf (items.map (part element))
  | .sequence components, .sequence values => .sequence (arranged part components values)
  | .choice alternatives, .choice name content =>
    match Alternative.byName? alternatives name with
    | none => value
    | some alternative => .choice name (part alternative.type content)
  | _, _ => value

theorem normalizeNamed_eq {step : PartNormalizer} {part : TypeNode → Value → Value}
    (component : Component TypeNode)
    (total : ∀ value, step component.type value = .ok (part component.type value))
    (values : List (String × Value)) :
    normalizeNamed step component values = .ok (arrangedNamed part component values) := by
  induction values with
  | nil => rfl
  | cons entry rest ih =>
      obtain ⟨name, value⟩ := entry
      rw [normalizeNamed, total, ih]
      by_cases named : name = component.name
      · simp [arrangedNamed, named]
        rfl
      · simp [arrangedNamed, named]

theorem normalizeDeclared_eq {step : PartNormalizer} {part : TypeNode → Value → Value}
    (components : List (Component TypeNode))
    (total : ∀ component ∈ components, ∀ value,
      step component.type value = .ok (part component.type value))
    (values : List (String × Value)) :
    normalizeDeclared step values components =
      .ok (components.flatMap fun component => arrangedNamed part component values) := by
  induction components with
  | nil => rfl
  | cons component rest ih =>
      obtain ⟨own, others⟩ := List.forall_mem_cons.mp total
      rw [normalizeDeclared, normalizeNamed_eq component own, ih others]
      rfl

/-- Where all parts have normal forms, so has the whole. -/
theorem normalizeShape_eq {step : PartNormalizer} {part : TypeNode → Value → Value}
    (shape : Shape TypeNode)
    (total : ∀ node ∈ shape.parts, ∀ value, step node value = .ok (part node value))
    (value : Value) : normalizeShape step shape value = .ok (arrangedShape part shape value) := by
  cases shape with
  | sequenceOf size element =>
      cases value with
      | sequenceOf items =>
          rw [normalizeShape, mapM_eq items fun item _ => total element (by simp [Shape.parts]) item]
          rfl
      | _ => rfl
  | sequence components =>
      cases value with
      | sequence values =>
          rw [normalizeShape, normalizeDeclared_eq components fun component member =>
            total component.type (by simpa [Shape.parts] using ⟨component, member, rfl⟩)]
          rfl
      | _ => rfl
  | choice alternatives =>
      cases value with
      | choice name content =>
          rw [normalizeShape, arrangedShape]
          cases selected : Alternative.byName? alternatives name with
          | none => rfl
          | some alternative =>
              have declared := (Alternative.declared_of_byName? selected).1
              simp only
              rw [total alternative.type (List.mem_map_of_mem declared)]
              rfl
      | _ => rfl
  | _ => cases value <;> rfl

/-! A normal form is arranged already. -/

section

variable {part : TypeNode → Value → Value} {components : List (Component TypeNode)}

theorem arrangedNamed_name {component : Component TypeNode} {values : List (String × Value)}
    {entry : String × Value} (member : entry ∈ arrangedNamed part component values) :
    entry.1 = component.name := by
  obtain ⟨source, among, rfl⟩ := List.mem_map.mp member
  simpa using (List.mem_filter.mp among).2

/-- Among the arranged components those of one name are its own, as they were arranged. -/
theorem filter_arranged (distinct : (components.map (·.name)).Nodup)
    {component : Component TypeNode} (declared : component ∈ components)
    (values : List (String × Value)) :
    (arranged part components values).filter (fun entry => entry.1 = component.name) =
      arrangedNamed part component values := by
  have own : (arrangedNamed part component values).filter (fun entry => entry.1 = component.name) =
      arrangedNamed part component values := by
    rw [List.filter_eq_self]
    exact fun entry member => by simpa using arrangedNamed_name member
  have apart : ∀ other : Component TypeNode, other.name ≠ component.name →
      (arrangedNamed part other values).filter (fun entry => entry.1 = component.name) = [] := by
    intro other different
    rw [List.filter_eq_nil_iff]
    exact fun entry member => by simpa [arrangedNamed_name member] using different
  have rest :
      (undeclared components values).filter (fun entry => entry.1 = component.name) = [] := by
    rw [List.filter_eq_nil_iff]
    intro entry member named
    have same : component.name = entry.1 := by simpa using Eq.symm (of_decide_eq_true named)
    have unknown := (List.mem_filter.mp member).2
    simp only [Component.byName?, Option.isNone_iff_eq_none, List.find?_eq_none,
      beq_iff_eq] at unknown
    exact unknown component declared same
  rw [arranged, List.filter_append, rest, List.append_nil]
  -- As the names are distinct, one component contributes its entries and the others nothing.
  clear rest
  induction components with
  | nil => cases declared
  | cons first others ih =>
      obtain ⟨fresh, later⟩ := List.nodup_cons.mp distinct
      rw [List.flatMap_cons, List.filter_append]
      rcases List.mem_cons.mp declared with rfl | among
      · have none : (others.flatMap fun other => arrangedNamed part other values).filter
            (fun entry => entry.1 = component.name) = [] := by
          rw [List.filter_flatMap, List.flatMap_eq_nil_iff]
          intro other member
          exact apart other fun same => fresh (List.mem_map.mpr ⟨other, member, same⟩)
        rw [own, none, List.append_nil]
      · have different : first.name ≠ component.name :=
          fun same => fresh (List.mem_map.mpr ⟨component, among, same.symm⟩)
        rw [apart first different, ih later among]
        rfl

theorem undeclared_arranged (values : List (String × Value)) :
    undeclared components (arranged part components values) = undeclared components values := by
  have known : undeclared components
      (components.flatMap fun component => arrangedNamed part component values) = [] := by
    rw [undeclared, List.filter_eq_nil_iff]
    intro entry member
    obtain ⟨component, declared, among⟩ := List.mem_flatMap.mp member
    simpa [Component.byName?, arrangedNamed_name among] using ⟨component, declared, rfl⟩
  have twice : undeclared components (undeclared components values) =
      undeclared components values := by
    simp [undeclared]
  rw [arranged, undeclared, List.filter_append, ← undeclared, ← undeclared, known, twice]
  rfl

theorem arranged_twice (distinct : (components.map (·.name)).Nodup)
    (again : ∀ component ∈ components, ∀ value,
      part component.type (part component.type value) = part component.type value)
    (values : List (String × Value)) :
    arranged part components (arranged part components values) =
      arranged part components values := by
  have each : ∀ component ∈ components,
      arrangedNamed part component (arranged part components values) =
        arrangedNamed part component values := by
    intro component declared
    rw [arrangedNamed, filter_arranged distinct declared, arrangedNamed, List.map_map]
    refine List.map_congr_left fun entry _ => ?_
    simp [again component declared]
  rw [arranged, undeclared_arranged, List.flatMap_congr each]
  rfl

end

theorem arrangedShape_twice {part : TypeNode → Value → Value} (shape : Shape TypeNode)
    (sound : shape.Sound)
    (again : ∀ node ∈ shape.parts, ∀ value, part node (part node value) = part node value)
    (value : Value) :
    arrangedShape part shape (arrangedShape part shape value) = arrangedShape part shape value := by
  cases shape with
  | sequenceOf size element =>
      cases value with
      | sequenceOf items =>
          have inside := again element (by simp [Shape.parts])
          simp [arrangedShape, inside]
      | _ => rfl
  | sequence components =>
      cases value with
      | sequence values =>
          rw [arrangedShape, arrangedShape, arranged_twice sound]
          intro component member
          exact again component.type (by simpa [Shape.parts] using ⟨component, member, rfl⟩)
      | _ => rfl
  | choice alternatives =>
      cases value with
      | choice name content =>
          cases selected : Alternative.byName? alternatives name with
          | none => simp [arrangedShape, selected]
          | some alternative =>
              have declared := (Alternative.declared_of_byName? selected).1
              have inside := again alternative.type (List.mem_map_of_mem declared) content
              simp [arrangedShape, selected, inside]
      | _ => rfl
  | _ => cases value <;> rfl

/-! Arranging keeps what a shape asks for. -/

section

variable {part : TypeNode → Value → Value}

theorem arrangedNamed_others {component other : Component TypeNode}
    (different : other.name ≠ component.name) (values : List (String × Value)) :
    arrangedNamed part other (values.filter fun entry => ¬ entry.1 = component.name) =
      arrangedNamed part other values := by
  rw [arrangedNamed, List.filter_filter, arrangedNamed]
  congr 1
  refine List.filter_congr fun entry _ => ?_
  by_cases same : entry.1 = other.name
  · simp [same, different]
  · simp [same]

theorem undeclared_others (component : Component TypeNode) (components : List (Component TypeNode))
    (values : List (String × Value)) :
    undeclared components (values.filter fun entry => ¬ entry.1 = component.name) =
      undeclared (component :: components) values := by
  rw [undeclared, List.filter_filter, undeclared]
  refine List.filter_congr fun entry _ => ?_
  by_cases same : component.name = entry.1
  · simp [Component.byName?, same]
  · simp [Component.byName?, same, Ne.symm same]

/-- Arranging keeps the names of the components, each as often as it occurs. -/
theorem arranged_names (part : TypeNode → Value → Value) {components : List (Component TypeNode)}
    (distinct : (components.map (·.name)).Nodup) (values : List (String × Value)) :
    ((arranged part components values).map (·.1)).Perm (values.map (·.1)) := by
  induction components generalizing values with
  | nil => simp [arranged, undeclared, Component.byName?]
  | cons component rest ih =>
      obtain ⟨fresh, others⟩ := List.nodup_cons.mp distinct
      -- The first component takes its own entries, the rest arrange what is left.
      obtain ⟨left, isLeft⟩ : ∃ left,
          left = values.filter fun entry => ¬ entry.1 = component.name := ⟨_, rfl⟩
      have named : (arrangedNamed part component values).map (·.1) =
          (values.filter fun entry => entry.1 = component.name).map (·.1) := by
        rw [arrangedNamed, List.map_map]
        rfl
      have same : arranged part (component :: rest) values =
          arrangedNamed part component values ++ arranged part rest left := by
        have each : rest.flatMap (fun other => arrangedNamed part other values) =
            rest.flatMap fun other => arrangedNamed part other left := by
          refine List.flatMap_congr fun other member => ?_
          rw [isLeft, arrangedNamed_others]
          exact fun same => fresh (List.mem_map.mpr ⟨other, member, same⟩)
        rw [arranged, List.flatMap_cons, ← undeclared_others, ← isLeft, each, List.append_assoc]
        rfl
      have split : ((values.filter fun entry => entry.1 = component.name) ++ left).Perm values := by
        have parted :=
          List.filter_append_perm (fun entry => decide (entry.1 = component.name)) values
        simpa [isLeft] using parted
      rw [same, List.map_append, named]
      refine ((ih others left).append_left _).trans ?_
      rw [← List.map_append]
      exact split.map _

theorem arrangedShape_fits_iff {shape : Shape TypeNode} (sound : shape.Sound) (value : Value) :
    shape.Fits (arrangedShape part shape value) ↔ shape.Fits value := by
  cases shape with
  | sequenceOf size element =>
      cases value with
      | sequenceOf items => simp [arrangedShape, Shape.Fits]
      | _ => exact Iff.rfl
  | sequence components =>
      cases value with
      | sequence values =>
          have names := arranged_names part sound values
          simp only [arrangedShape, Shape.Fits, names.mem_iff, names.nodup_iff]
      | _ => exact Iff.rfl
  | choice alternatives =>
      cases value with
      | choice name content =>
          rw [arrangedShape]
          split <;> exact Iff.rfl
      | _ => exact Iff.rfl
  | _ => cases value <;> exact Iff.rfl

/-- What falls under a part of the shape was arranged as that part. -/
theorem arrangedShape_assigns {shape : Shape TypeNode} (sound : shape.Sound) {value : Value}
    (fits : shape.Fits value) {node : TypeNode} {content : Value}
    (assigned : shape.Assigns (arrangedShape part shape value) node content) :
    ∃ source, shape.Assigns value node source ∧ content = part node source := by
  cases fits.ofKind with
  | sequenceOf size element items =>
      obtain ⟨member, rfl⟩ := assigned
      obtain ⟨source, among, rfl⟩ := List.mem_map.mp member
      exact ⟨source, ⟨among, rfl⟩, rfl⟩
  | sequence components values =>
      obtain ⟨component, declared, member, rfl⟩ := assigned
      rcases List.mem_append.mp member with listed | unknown
      · obtain ⟨other, among, taken⟩ := List.mem_flatMap.mp listed
        have same : component.name = other.name := arrangedNamed_name taken
        obtain rfl := List.inj_on_of_nodup_map sound declared among same
        obtain ⟨⟨name, source⟩, present, result⟩ := List.mem_map.mp taken
        obtain ⟨found, _⟩ := List.mem_filter.mp present
        obtain ⟨rfl, rfl⟩ := Prod.mk.inj result
        exact ⟨source, ⟨component, declared, found, rfl⟩, rfl⟩
      -- What is kept behind the declared components has the name of none of them.
      · have absent := (List.mem_filter.mp unknown).2
        simp only [Component.byName?, Option.isNone_iff_eq_none, List.find?_eq_none,
          beq_iff_eq] at absent
        exact absurd rfl (absent component declared)
  | choice alternatives name content =>
      obtain ⟨alternative, selected⟩ := Alternative.exists_byName? fits
      rw [arrangedShape, selected] at assigned
      obtain ⟨other, among, named, rfl, rfl⟩ := assigned
      obtain ⟨declared, taken⟩ := Alternative.declared_of_byName? selected
      obtain rfl := List.inj_on_of_nodup_map sound.2 declared among (taken.trans named)
      exact ⟨_, ⟨alternative, among, named, rfl, rfl⟩, rfl⟩
  | _ => simp [Shape.Assigns] at assigned

end

/-! Values that were read. -/

theorem sameNumber_self {x : Binary64} (number : x.isNaN = false) : x.sameNumber x = true := by
  simp [Binary64.sameNumber, number]

/-- Whole numbers of documents are far below the greatest real. -/
theorem ofInt_finite (n : WholeNumber) : (Binary64.ofInt n.val).isFinite = true := by
  obtain ⟨n, low, high⟩ := n
  have most : (n.natAbs : ℚ) ≤ 18446744073709551616 := by
    have bound : n.natAbs ≤ 18446744073709551616 := by omega
    exact_mod_cast bound
  have power : ((2 ^ 52 : ℕ) : ℚ) * (2 : ℚ) ^ (12 : Int) = 18446744073709551616 := by norm_num
  have below : Binary64.nearestMagnitude n.natAbs 1 ≤
      ((12 : Int) + 1074).toNat * Binary64.exponentUnit + 2 ^ 52 := by
    apply Binary64.nearestMagnitude_le n.natAbs 1 Nat.one_pos (2 ^ 52) 12 (by decide) (by decide)
      (.inl (Nat.le_refl _))
    rwa [power, Nat.cast_one, div_one]
  have small : Binary64.nearestMagnitude n.natAbs 1 < Binary64.infiniteMagnitude :=
    Nat.lt_of_le_of_lt below (by decide)
  have parts := Binary64.ofParts_parts (decide (n < 0)) _ (small.trans (by decide))
  rw [Binary64.isFinite, Binary64.ofInt, parts.1]
  exact decide_eq_true small

theorem real?_finite {json : Json} {x : Binary64} (read : json.real? = some x) :
    x.isFinite = true := by
  cases json with
  | integer n =>
      obtain rfl := Option.some.inj read
      exact ofInt_finite n
  | real y =>
      obtain rfl := Option.some.inj read
      exact y.finite
  | _ => cases read

theorem sameItems_self {items : List Value} (each : ∀ item ∈ items, item.same item = true) :
    sameItems items items = true := by
  induction items with
  | nil => rfl
  | cons item rest ih =>
      obtain ⟨own, others⟩ := List.forall_mem_cons.mp each
      rw [sameItems, own, ih others]
      rfl

theorem sameComponents_self {components : List (String × Value)}
    (each : ∀ component ∈ components, component.2.same component.2 = true) :
    sameComponents components components = true := by
  induction components with
  | nil => rfl
  | cons component rest ih =>
      obtain ⟨own, others⟩ := List.forall_mem_cons.mp each
      obtain ⟨name, value⟩ := component
      rw [sameComponents, own, ih others]
      simp

/-- Elements that were read are as good as reading makes each of them. -/
theorem readElements_each {part : PartReader} {element : TypeNode} {items : List Json}
    {good : Value → Prop} (each : ∀ place value, ∀ item ∈ items,
      part place element item = .ok value → good value) {place : String} {index : Nat}
    {values : List Value} (read : readElements part place element index items = .ok values) :
    ∀ value ∈ values, good value := by
  induction items generalizing index values with
  | nil =>
      obtain rfl : [] = values := Except.ok.inj read
      exact nofun
  | cons item rest ih =>
      obtain ⟨value, first, remaining⟩ := bind_ok_iff.mp read
      obtain ⟨others, after, result⟩ := bind_ok_iff.mp remaining
      obtain rfl : value :: others = values := Except.ok.inj result
      have later := ih (fun place value item member =>
        each place value item (List.mem_cons_of_mem _ member)) after
      exact List.forall_mem_cons.mpr ⟨each _ _ item List.mem_cons_self first, later⟩

/-- Components are read in declaration order, each for a component of its name. -/
theorem readComponents_each {part : PartReader} {members : Members}
    (good : TypeNode → Value → Prop) {components : List (Component TypeNode)}
    (each : ∀ component ∈ components, ∀ place json value, (component.name, json) ∈ members →
      part place component.type json = .ok value → good component.type value)
    {place : String} {values : List (String × Value)}
    (read : readComponents part place members components = .ok values) :
    (values.map (·.1)).Sublist (components.map (·.name)) ∧
      ∀ entry ∈ values, ∃ component ∈ components,
        component.name = entry.1 ∧ good component.type entry.2 := by
  induction components generalizing values with
  | nil =>
      obtain rfl : [] = values := Except.ok.inj read
      exact ⟨.slnil, nofun⟩
  | cons component rest ih =>
      obtain ⟨own, later⟩ := List.forall_mem_cons.mp each
      have wider : ∀ {entry : String × Value}, (∃ component ∈ rest,
          component.name = entry.1 ∧ good component.type entry.2) →
          ∃ other ∈ component :: rest, other.name = entry.1 ∧ good other.type entry.2 := by
        rintro entry ⟨other, member, given⟩
        exact ⟨other, List.mem_cons_of_mem _ member, given⟩
      rw [readComponents] at read
      cases found : members.lookup component.name with
      | none =>
          rw [found] at read
          obtain ⟨names, given⟩ := ih later read
          exact ⟨names.cons _, fun entry member => wider (given entry member)⟩
      | some json =>
          rw [found] at read
          obtain ⟨value, first, remaining⟩ := bind_ok_iff.mp read
          obtain ⟨others, after, result⟩ := bind_ok_iff.mp remaining
          obtain rfl : (component.name, value) :: others = values := Except.ok.inj result
          obtain ⟨names, given⟩ := ih later after
          refine ⟨names.cons_cons _, List.forall_mem_cons.mpr ⟨?_, fun entry member => ?_⟩⟩
          · exact ⟨component, List.mem_cons_self, rfl, own _ _ _ (mem_of_lookup found) first⟩
          · exact wider (given entry member)

theorem readShape_same {part : PartReader} {place : String} {shape : Shape TypeNode}
    {json : Json} {value : Value} (each : ∀ place node value content, content.depth < json.depth →
      part place node content = .ok value → value.same value = true)
    (read : readShape part place shape json = .ok value) : value.same value = true := by
  cases readShape_ok_iff.mp read with
  | real given => exact sameNumber_self (Binary64.finite_not_nan (real?_finite given))
  | null => rfl
  | sequenceOf elements =>
      exact sameItems_self (readElements_each (fun place value item member =>
        each place _ value item (Nat.lt_succ_of_le (Json.item_depth_le member))) elements)
  | sequence _ listed =>
      obtain ⟨_, given⟩ := readComponents_each (fun _ content => content.same content)
        (fun component _ place json content member => each place component.type content json
          (Nat.lt_succ_of_le (Json.member_depth_le member))) listed
      refine sameComponents_self fun entry member => ?_
      obtain ⟨component, _, _, own⟩ := given entry member
      exact own
  | choice _ inside =>
      have own := each _ _ _ _ (Nat.lt_succ_of_le (Json.member_depth_le List.mem_cons_self)) inside
      simp [same, own]
  | _ => simp [same]

/-- What was read holds no NaN, so it is the same as itself. -/
theorem readPart_same {module : TypeModule} {place : String} {node : TypeNode} {json : Json}
    {value : Value} (read : readPart module place node json = .ok value) :
    value.same value = true := by
  induction levels : json.depth using Nat.strongRecOn generalizing place node json value with
  | ind levels ih =>
      subst levels
      rw [readPart_eq] at read
      split at read
      · cases read
      · exact readShape_same (fun place node value content less found => ih _ less found rfl) read

theorem ofJson_same {module : TypeModule} {node : TypeNode} {json : Json} {value : Value}
    (read : ofJson module node json = .ok value) : value.same value = true :=
  readPart_same read

/-- The normal form of a value, and the value itself where it has none. -/
def normal (module : TypeModule) (node : TypeNode) (value : Value) : Value :=
  (normalized module node value).toOption.getD value

end Value

namespace TypeModule

open Value

theorem AllSound.part {module : TypeModule} {id : ConstraintId} {shape : Shape TypeNode}
    (sound : (TypeNode.shaped id shape).AllSound module) {part : TypeNode}
    (isPart : part ∈ shape.parts) : part.AllSound module :=
  fun inner member =>
    sound inner
      (TypeNode.nodes_trans part _ (TypeNode.part_mem_nodes id shape part isPart) inner member)

theorem normal_reference {module : TypeModule} {id : ConstraintId} {target : String}
    {assignment : TypeAssignment} (found : module.find? target = some assignment) (value : Value) :
    normal module (.reference id target) value = normal module assignment.type value := by
  rw [normal, normalized_reference found, ← normal]

namespace WellFormed

variable {module : TypeModule} (wellFormed : module.WellFormed)

include wellFormed

/-- Every value has a normal form. -/
theorem normalized_eq_normal (node : TypeNode) (sound : node.AllSound module) (value : Value) :
    normalized module node value = .ok (normal module node value) := by
  have total : ∀ value, ∃ result, normalized module node value = .ok result := by
    apply wellFormed.induction ?_ ?_ node sound
    · intro id target assignment found ih value
      rw [normalized_reference found]
      exact ih value
    · intro id shape _ ih value
      have parts : ∀ part ∈ shape.parts, ∀ value,
          normalized module part value = .ok (normal module part value) := by
        intro part isPart value
        obtain ⟨result, reached⟩ := ih part isPart value
        simp [normal, reached, Except.toOption]
      rw [normalized_shaped, normalizeShape_eq shape parts]
      exact ⟨_, rfl⟩
  obtain ⟨result, reached⟩ := total value
  simp [normal, reached, Except.toOption]

theorem normal_shaped {id : ConstraintId} {shape : Shape TypeNode}
    (sound : (TypeNode.shaped id shape).AllSound module) (value : Value) :
    normal module (.shaped id shape) value = arrangedShape (normal module) shape value := by
  have parts : ∀ part ∈ shape.parts, ∀ value,
      normalized module part value = .ok (normal module part value) :=
    fun part isPart => wellFormed.normalized_eq_normal part (AllSound.part sound isPart)
  rw [normal, normalized_shaped, normalizeShape_eq shape parts]
  rfl

/-- A normal form is its own normal form. -/
theorem normal_normal (node : TypeNode) (sound : node.AllSound module) :
    ∀ value, normal module node (normal module node value) = normal module node value := by
  apply wellFormed.induction ?_ ?_ node sound
  · intro id target assignment found ih value
    rw [normal_reference found, normal_reference found, ih]
  · intro id shape sound ih value
    rw [wellFormed.normal_shaped sound, wellFormed.normal_shaped sound,
      arrangedShape_twice shape (sound _ (TypeNode.self_mem_nodes _)).2 ih]

theorem normal_conforms (node : TypeNode) (sound : node.AllSound module) :
    ∀ value, Conforms module node value → Conforms module node (normal module node value) := by
  apply wellFormed.induction ?_ ?_ node sound
  · intro id target assignment found ih value conforms
    rw [normal_reference found]
    have inner := (conforms_reference_iff id target assignment found value).mp conforms
    exact .reference found (ih value inner)
  · intro id shape sound ih value conforms
    have shapeSound := (sound _ (TypeNode.self_mem_nodes _)).2
    rw [wellFormed.normal_shaped sound]
    cases conforms with
    | unchecked leaf => exact .unchecked leaf
    | shaped fits parts =>
        refine .shaped ((arrangedShape_fits_iff shapeSound value).mpr fits)
          fun part content assigned => ?_
        obtain ⟨source, before, rfl⟩ := arrangedShape_assigns shapeSound fits assigned
        exact ih part (Shape.assigned_mem_parts before) source (parts part source before)

end WellFormed

end TypeModule

end Asn1Constraints
