import Asn1Constraints.Proofs.AskedQuestions
import Asn1Constraints.Proofs.DefaultInstances
import Asn1Constraints.Proofs.Occurrences
import Mathlib

/-!
Drawn instances. Whatever a source answers, as long as each answer lies in the
range asked for, the value that is drawn conforms to the type and holds nothing
longer than the options allow. A draw fails only at a node that is too large
for any instance, and such a node is met on the way.
-/

namespace Asn1Constraints

variable {σ α β : Type}

/-- A source that answers every proper question within the range asked for. -/
structure RandomSource.Faithful (source : RandomSource σ) : Prop where
  integerWithin : ∀ low high state, (Question.integerWithin low high).Proper →
    low ≤ ((source.integerWithin low high).run state).1 ∧
      ((source.integerWithin low high).run state).1 ≤ high
  lengthWithin : ∀ low high state, (Question.lengthWithin low high).Proper →
    low ≤ ((source.lengthWithin low high).run state).1 ∧
      ((source.lengthWithin low high).run state).1 ≤ high
  realWithin : ∀ low high state, (Question.realWithin low high).Proper →
    low.atMost ((source.realWithin low high).run state).1 = true ∧
      ((source.realWithin low high).run state).1.atMost high = true
  position : ∀ count state, (Question.position count).Proper →
    ((source.position count).run state).1 < count
  octetWithin : ∀ low high state, (Question.octetWithin low high).Proper →
    low ≤ ((source.octetWithin low high).run state).1 ∧
      ((source.octetWithin low high).run state).1 ≤ high

/-! The nodes that one draw comes to. -/

/-- Where one of several draws in a row starts, none before it having failed. -/
inductive Starts (one : σ → Except Error α × σ) : Nat → σ → σ → Prop where
  | first {count state} : Starts one (count + 1) state state
  | later {count state result next now} :
      one state = (.ok result, next) → Starts one count next now → Starts one (count + 1) state now

/-- Where the draw of a component starts, none before it having failed. -/
inductive ComponentStarts (source : RandomSource σ) (options : TestCaseOptions)
    (module : TypeModule) :
    List (Component TypeNode) → σ → Component TypeNode → σ → Prop where
  | first {component rest state now} :
      (source.inclusion options component.optional).run state = (true, now) →
      ComponentStarts source options module (component :: rest) state component now
  | absent {component rest other state next now} :
      (source.inclusion options component.optional).run state = (false, next) →
      ComponentStarts source options module rest next other now →
      ComponentStarts source options module (component :: rest) state other now
  | present {component rest other state next value after now} :
      (source.inclusion options component.optional).run state = (true, next) →
      module.drawInstance source options component.type next = (.ok value, after) →
      ComponentStarts source options module rest after other now →
      ComponentStarts source options module (component :: rest) state other now

/-- The nodes that the draw of a node comes to, from a state of the source. -/
inductive Reaches (source : RandomSource σ) (options : TestCaseOptions) (module : TypeModule) :
    TypeNode → σ → TypeNode → Prop where
  | self {node state} : Reaches source options module node state node
  | reference {id target assignment state inner} :
      module.find? target = some assignment →
      Reaches source options module assignment.type state inner →
      Reaches source options module (.reference id target) state inner
  | element {id size element state count next now inner} :
      (source.drawLength options size).run.run state = (.ok count, next) →
      Starts (module.drawInstance source options element) count next now →
      Reaches source options module element now inner →
      Reaches source options module (.shaped id (.sequenceOf size element)) state inner
  | component {id components component state now inner} :
      ComponentStarts source options module components state component now →
      Reaches source options module component.type now inner →
      Reaches source options module (.shaped id (.sequence components)) state inner
  | selected {id alternatives alternative state position now inner} :
      (source.position alternatives.length).run state = (position, now) →
      alternatives[position]? = some alternative →
      Reaches source options module alternative.type now inner →
      Reaches source options module (.shaped id (.choice alternatives)) state inner

/-- Unless lengths beyond the limit are asked for, the draw meets a node that is
too large. -/
def Fails (source : RandomSource σ) (options : TestCaseOptions) (module : TypeModule)
    (node : TypeNode) (state : σ) : Prop :=
  options.maxCollectionLen ≤ instanceLimit →
    ∃ inner, Reaches source options module node state inner ∧ inner.Oversized

/-- What goes wrong at a node that is come to goes wrong on the way to it. -/
theorem Fails.via {source : RandomSource σ} {options : TestCaseOptions} {module : TypeModule}
    {node part : TypeNode} {state now : σ} (failed : Fails source options module part now)
    (way : ∀ inner, Reaches source options module part now inner →
      Reaches source options module node state inner) : Fails source options module node state := by
  intro allowed
  obtain ⟨inner, reached, large⟩ := failed allowed
  exact ⟨inner, way inner reached, large⟩

/-- Nothing is longer than the options allow, or than the least size requires. -/
def Moderate (options : TestCaseOptions) (node : TypeNode) (value : Value) : Prop :=
  ∀ size length, node.size? = some size → value.size? = some length →
    length ≤ max size.minSize.toNat options.maxCollectionLen.toNat

theorem Moderate.of_length {options : TestCaseOptions} {id : ConstraintId} {shape : Shape TypeNode}
    {value : Value} {size : SizeBounds} {length : Nat} (sized : shape.size? = some size)
    (measured : value.size? = some length)
    (within : length ≤ max size.minSize.toNat options.maxCollectionLen.toNat) :
    Moderate options (.shaped id shape) value := by
  intro bounds found declared exact
  rw [TypeNode.size?, sized] at declared
  rw [measured] at exact
  obtain rfl := Option.some.inj declared
  obtain rfl := Option.some.inj exact
  exact within

/-- What the draw of a node is to give. -/
def Suits (options : TestCaseOptions) (module : TypeModule) (node : TypeNode) (value : Value) :
    Prop :=
  Conforms module node value ∧ Everywhere module (Moderate options) node value

namespace Suits

variable {options : TestCaseOptions} {module : TypeModule} {id : ConstraintId}

theorem reference {target : String} {assignment : TypeAssignment} {value : Value}
    (found : module.find? target = some assignment)
    (suits : Suits options module assignment.type value) :
    Suits options module (.reference id target) value := by
  refine ⟨.reference found suits.1, (Everywhere.reference_iff found).mpr ⟨?_, suits.2⟩⟩
  intro size length sized
  simp [TypeNode.size?] at sized

theorem shaped {shape : Shape TypeNode} {value : Value} (fits : shape.Fits value)
    (moderate : Moderate options (.shaped id shape) value)
    (parts : ∀ part content, shape.Assigns value part content →
      Suits options module part content) :
    Suits options module (.shaped id shape) value :=
  ⟨.shaped fits fun part content assigned => (parts part content assigned).1,
    Everywhere.shaped_iff.mpr
      ⟨moderate, fun part content assigned => (parts part content assigned).2⟩⟩

theorem unsized {shape : Shape TypeNode} {value : Value} (fits : shape.Fits value)
    (none : shape.size? = none)
    (parts : ∀ part content, shape.Assigns value part content →
      Suits options module part content) :
    Suits options module (.shaped id shape) value := by
  refine shaped fits ?_ parts
  intro size length sized
  simp [TypeNode.size?, none] at sized

end Suits

/-! Answers, and draws that may fail. -/

/-- Whatever the state, the answer is a good one. -/
def Answers (good : α → Prop) (asked : StateM σ α) : Prop := ∀ state, good (asked.run state).1

namespace Answers

theorem pure {good : α → Prop} {result : α} (holds : good result) :
    Answers (σ := σ) good (pure result) :=
  fun _ => holds

theorem bind {good : α → Prop} {fine : β → Prop} {asked : StateM σ α} {next : α → StateM σ β}
    (first : Answers good asked) (rest : ∀ result, good result → Answers fine (next result)) :
    Answers fine (asked >>= next) :=
  fun state => rest _ (first state) _

theorem anything (asked : StateM σ α) : Answers (fun _ => True) asked := fun _ => trivial

end Answers

/-- From the given state the draw gives a good result, or fails as described. -/
def Draw.Ends (draw : Draw σ α) (state : σ) (good : α → Prop) (failed : Prop) : Prop :=
  match draw.run.run state with
  | (.ok result, _) => good result
  | (.error _, _) => failed

namespace Draw.Ends

variable {good : α → Prop} {fine : β → Prop} {failed : Prop} {state : σ}

theorem pure {result : α} (holds : good result) :
    (pure result : Draw σ α).Ends state good failed :=
  holds

theorem ask {asked : StateM σ α} (answers : Answers good asked) :
    (Draw.ask asked).Ends state good failed :=
  answers state

theorem bind {draw : Draw σ α} {next : α → Draw σ β} (first : draw.Ends state good failed)
    (rest : ∀ result after, draw.run.run state = (.ok result, after) → good result →
      (next result).Ends after fine failed) :
    (draw >>= next).Ends state fine failed := by
  unfold Draw.Ends at first ⊢
  simp only [ExceptT.run_bind, StateT.run_bind]
  split at first
  · rename_i result after run
    rw [run]
    exact rest result after run first
  · rename_i error after run
    rw [run]
    exact first

theorem of_ok {draw : Draw σ α} {result : α} {after : σ} (ends : draw.Ends state good failed)
    (run : draw.run.run state = (.ok result, after)) : good result := by
  rw [Draw.Ends, run] at ends
  exact ends

theorem of_error {draw : Draw σ α} {error : Error} {after : σ}
    (ends : draw.Ends state good failed) (run : draw.run.run state = (.error error, after)) :
    failed := by
  rw [Draw.Ends, run] at ends
  exact ends

theorem weaken {draw : Draw σ α} {enough : α → Prop} {instead : Prop}
    (ends : draw.Ends state good failed) (better : ∀ result, good result → enough result)
    (worse : failed → instead) : draw.Ends state enough instead := by
  unfold Draw.Ends at ends ⊢
  split at ends
  · exact better _ ends
  · exact worse ends

theorem blame {draw : Draw σ α} {instead : Prop} (ends : draw.Ends state good failed)
    (worse : failed → instead) : draw.Ends state good instead :=
  ends.weaken (fun _ holds => holds) worse

theorem manyWith {one : Draw σ α} (count : Nat) (drawn : List α)
    (before : ∀ item ∈ drawn, good item)
    (each : ∀ now, Starts (fun state => one.run.run state) count state now →
      one.Ends now good failed) :
    (Draw.manyWith one count drawn).Ends state
      (fun items => items.length = drawn.length + count ∧ ∀ item ∈ items, good item) failed := by
  induction count generalizing drawn state with
  | zero => exact pure ⟨by simp, by simpa using before⟩
  | succ count ih =>
      refine bind (each state .first) fun next after run holds => ?_
      have rest := ih (next :: drawn) (List.forall_mem_cons.mpr ⟨holds, before⟩)
        fun now starts => each now (.later run starts)
      refine rest.weaken (fun items => And.imp_left fun length => ?_) id
      rw [length, List.length_cons]
      omega

theorem many {one : Draw σ α} (count : Nat)
    (each : ∀ now, Starts (fun state => one.run.run state) count state now →
      one.Ends now good failed) :
    (Draw.many count one).Ends state
      (fun items => items.length = count ∧ ∀ item ∈ items, good item) failed :=
  (manyWith count [] (by simp) each).weaken (by simp) id

end Draw.Ends

namespace RandomSource

variable {source : RandomSource σ}

theorem either_answers {good : α → Prop} {first second : α} (one : good first)
    (other : good second) : Answers good (source.either first second) := by
  refine (Answers.anything _).bind fun takesFirst _ => .pure ?_
  cases takesFirst with
  | true => exact one
  | false => exact other

theorem biased_answers {good : α → Prop} {first second : α} {plain : StateM σ α}
    (options : TestCaseOptions) (one : good first) (other : good second)
    (otherwise : Answers good plain) :
    Answers good
      (do if ← source.chance options.boundaryBias then source.either first second else plain) := by
  refine (Answers.anything _).bind fun atBoundary _ => ?_
  cases atBoundary with
  | true => exact either_answers one other
  | false => exact otherwise

namespace Faithful

variable (faithful : source.Faithful) (options : TestCaseOptions)

include faithful

theorem drawInteger (bounds : IntegerBounds) (sound : bounds.min ≤ bounds.max) :
    Answers (fun n => bounds.min ≤ n ∧ n ≤ bounds.max) (source.drawInteger options bounds) := by
  unfold RandomSource.drawInteger
  split
  · exact .pure ⟨Int64.le_refl _, sound⟩
  · exact biased_answers options ⟨Int64.le_refl _, sound⟩ ⟨sound, Int64.le_refl _⟩
      fun state => faithful.integerWithin _ _ state sound

/-- A fraction of either end of a range around zero lies in the range. -/
theorem drawWide (bounds : RealBounds) (low : bounds.min.isFinite = true)
    (high : bounds.max.isFinite = true) (around : bounds.min.rank ≤ 0 ∧ 0 ≤ bounds.max.rank) :
    Answers (fun x => x.isNaN = false ∧ bounds.min.rank ≤ x.rank ∧ x.rank ≤ bounds.max.rank)
      (source.drawWide bounds) := by
  have fractions : Answers Binary64.IsFraction
      (source.realWithin Binary64.zero Binary64.one) :=
    fun state => faithful.realWithin _ _ state Question.unit_proper
  have halves : Answers (fun half => half = bounds.min ∨ half = bounds.max)
      (source.either bounds.min bounds.max) := either_answers (.inl rfl) (.inr rfl)
  refine fractions.bind fun fraction isFraction => halves.bind fun half isBound => .pure ?_
  rcases isBound with rfl | rfl
  · obtain ⟨number, above, below⟩ := bounds.min.mul_fraction fraction low isFraction
    exact ⟨number, by omega, by omega⟩
  · obtain ⟨number, above, below⟩ := bounds.max.mul_fraction fraction high isFraction
    exact ⟨number, by omega, by omega⟩

theorem drawReal (bounds : RealBounds) (low : bounds.min.isFinite = true)
    (high : bounds.max.isFinite = true) (ordered : bounds.min.rank ≤ bounds.max.rank) :
    Answers (fun x => x.isNaN = false ∧ bounds.min.rank ≤ x.rank ∧ x.rank ≤ bounds.max.rank)
      (source.drawReal options bounds) := by
  have atLow := Binary64.finite_not_nan low
  have atHigh := Binary64.finite_not_nan high
  unfold RandomSource.drawReal
  split
  · exact .pure ⟨atLow, Int.le_refl _, ordered⟩
  · refine biased_answers options ⟨atLow, Int.le_refl _, ordered⟩ ⟨atHigh, ordered, Int.le_refl _⟩ ?_
    split
    · rename_i finite
      intro state
      have within := faithful.realWithin _ _ state ⟨low, high, ordered, finite⟩
      exact (bounds.contains_iff atLow atHigh _).mp (by simpa [RealBounds.contains] using within)
    · rename_i wide
      exact faithful.drawWide bounds low high
        (Binary64.zero_between_of_wide _ _ low high ordered (by simpa using wide))

theorem drawSize (size : SizeBounds) (sound : size.minSize ≤ size.maxSize) :
    Answers (fun length => size.minSize ≤ length ∧ length ≤ longest options size)
      (source.drawSize options size) := by
  have upper := le_longest options size sound
  unfold RandomSource.drawSize
  simp only
  split
  · exact .pure ⟨UInt64.le_refl _, upper⟩
  · exact biased_answers options ⟨UInt64.le_refl _, upper⟩ ⟨upper, UInt64.le_refl _⟩
      fun state => faithful.lengthWithin _ _ state upper

/-- A length that is drawn serves the node, and one that cannot be built is the
fault of the least size. -/
theorem drawLength (size : SizeBounds) (sound : size.minSize ≤ size.maxSize) (state : σ) :
    (source.drawLength options size).Ends state
      (fun length => size.minSize.toNat ≤ length ∧ length ≤ size.maxSize.toNat ∧
        length ≤ max size.minSize.toNat options.maxCollectionLen.toNat)
      (options.maxCollectionLen ≤ instanceLimit → instanceLimit < size.minSize) := by
  refine .bind (.ask (faithful.drawSize options size sound)) fun length after _ within => ?_
  have bounds := UInt64.le_iff_toNat_le.mp within.1
  have upper := UInt64.le_iff_toNat_le.mp within.2
  rw [longest_toNat] at upper
  rcases instanceLength_cases length with ⟨large, failed⟩ | ⟨small, built⟩
  · rw [failed]
    intro allowed
    rw [UInt64.le_iff_toNat_le] at allowed
    rw [UInt64.lt_iff_toNat_lt] at large ⊢
    omega
  · rw [built]
    exact ⟨bounds, by omega, by omega⟩

theorem drawCharacter : Answers (fun c => c.toNat ≤ 127) source.drawCharacter := by
  have codes : Answers (fun code => 0x20 ≤ code ∧ code ≤ 0x7e)
      (source.octetWithin 0x20 0x7e) := fun state =>
    faithful.octetWithin _ _ state (by decide : (0x20 : UInt8) ≤ 0x7e)
  refine codes.bind fun code within => .pure ?_
  have upper : code.toNat ≤ 126 := within.2
  rw [Char.toNat_ofNat, if_pos (by simp [Nat.isValidChar]; omega)]
  omega

theorem drawItem (items : List EnumItem) (some : items ≠ []) (state : σ) :
    (source.drawItem items).Ends state
      (fun value => ∃ item ∈ items, value = .enumerated item.value) False := by
  obtain ⟨first, rest, rfl⟩ := List.exists_cons_of_ne_nil some
  have positions : Answers (· < (first :: rest).length)
      (source.position (first :: rest).length) := fun state =>
    faithful.position _ state (by simp [Question.Proper])
  refine .bind (.ask positions) fun position after _ within => .pure ?_
  rw [List.getElem?_eq_getElem within]
  exact ⟨_, List.getElem_mem within, rfl⟩

end Faithful

end RandomSource

/-! Nodes, from their parts. -/

theorem Draw.run_ask_eq {asked : StateM σ α} {state after : σ} {answer : α}
    (run : (Draw.ask asked).run.run state = (.ok answer, after)) :
    asked.run state = (answer, after) := by
  have parts : (Except.ok (asked.run state).1, (asked.run state).2) =
      ((.ok answer, after) : Except Error α × σ) := run
  simp only [Prod.mk.injEq, Except.ok.injEq] at parts
  exact Prod.ext parts.1 parts.2

/-- What comes of drawing a node. -/
def Drawn (source : RandomSource σ) (options : TestCaseOptions) (module : TypeModule)
    (node : TypeNode) : Prop :=
  ∀ state, ((module.unfold node).draw source options module.name).Ends state
    (Suits options module node) (Fails source options module node state)

/-- The alternative at a position that there is. -/
theorem drawAlternative_eq (source : RandomSource σ) (options : TestCaseOptions) (module : String)
    (alternatives : List (Alternative Branch)) (position : Nat) (alternative : Alternative Branch)
    (selected : alternatives[position]? = some alternative) :
    drawAlternative source options module position alternatives = (do
      return .choice alternative.name (← (alternative.type ()).draw source options module)) := by
  induction alternatives generalizing position with
  | nil => simp at selected
  | cons first rest ih =>
      cases position with
      | zero =>
          obtain rfl : first = alternative := by simpa using selected
          simp [drawAlternative]
      | succ position =>
          rw [List.getElem?_cons_succ] at selected
          have more : rest.isEmpty = false := by
            cases rest with
            | nil => simp at selected
            | cons second others => rfl
          simp [drawAlternative, more, ih position selected]

namespace RandomSource.Faithful

variable {source : RandomSource σ} (faithful : source.Faithful) {options : TestCaseOptions}
  {module : TypeModule}

include faithful

omit faithful in
/-- A shape without parts whose value is one answer. -/
theorem simple {id : ConstraintId} {shape : Shape TypeNode} {draw : Draw σ Value} {state : σ}
    (bare : shape.parts = []) (unsized : shape.size? = none)
    (fits : draw.Ends state shape.Fits False) :
    draw.Ends state (Suits options module (.shaped id shape))
      (Fails source options module (.shaped id shape) state) :=
  fits.weaken (fun _ holds => .unsized holds unsized fun _ _ assigned =>
    absurd (Shape.assigned_mem_parts assigned) (by simp [bare])) False.elim

/-- The length for a node that has a size. -/
theorem nodeLength {id : ConstraintId} {shape : Shape TypeNode} {size : SizeBounds}
    (sized : shape.size? = some size) (sound : size.minSize ≤ size.maxSize) (state : σ) :
    (source.drawLength options size).Ends state
      (fun length => size.minSize.toNat ≤ length ∧ length ≤ size.maxSize.toNat ∧
        length ≤ max size.minSize.toNat options.maxCollectionLen.toNat)
      (Fails source options module (.shaped id shape) state) :=
  (faithful.drawLength options size sound state).blame
    fun large allowed => ⟨_, .self, size, sized, large allowed⟩

/-- A string, drawn piece by piece. -/
theorem string {id : ConstraintId} {shape : Shape TypeNode} {size : SizeBounds}
    {piece : StateM σ α} {good : α → Prop} (make : List α → Value) (answers : Answers good piece)
    (bare : shape.parts = []) (sized : shape.size? = some size) (sound : size.minSize ≤ size.maxSize)
    (measured : ∀ pieces, (make pieces).size? = some pieces.length)
    (fits : ∀ pieces, (∀ piece ∈ pieces, good piece) → size.minSize.toNat ≤ pieces.length →
      pieces.length ≤ size.maxSize.toNat → shape.Fits (make pieces)) (state : σ) :
    (do
      let length ← source.drawLength options size
      return make (← Draw.many length (Draw.ask piece))).Ends state
      (Suits options module (.shaped id shape))
      (Fails source options module (.shaped id shape) state) := by
  refine (faithful.nodeLength sized sound state).bind fun length next _ within => ?_
  -- No piece can fail, so the length is all there is to blame.
  refine .bind (.many length fun now _ => .ask answers) fun pieces after _ drawn => .pure ?_
  obtain ⟨count, each⟩ := drawn
  refine .shaped (fits pieces each (by omega) (by omega)) ?_ fun part content assigned => ?_
  · exact .of_length sized (measured pieces) (by omega)
  · exact absurd (Shape.assigned_mem_parts assigned) (by simp [bare])

theorem sequenceOf {id : ConstraintId} {size : SizeBounds} {element : TypeNode}
    (sound : size.minSize ≤ size.maxSize) (drawn : Drawn source options module element)
    (state : σ) :
    (drawShape source options module.name (.sequenceOf size fun _ => module.unfold element)).Ends
      state (Suits options module (.shaped id (.sequenceOf size element)))
      (Fails source options module (.shaped id (.sequenceOf size element)) state) := by
  refine (faithful.nodeLength rfl sound state).bind fun length next run within => ?_
  have elements : (Draw.many length
      ((module.unfold element).draw source options module.name)).Ends next
      (fun items => items.length = length ∧ ∀ item ∈ items, Suits options module element item)
      (Fails source options module (.shaped id (.sequenceOf size element)) state) :=
    .many length fun now starts => (drawn now).blame fun failed =>
      failed.via fun _ => .element run starts
  refine elements.bind fun items after _ each => .pure ?_
  obtain ⟨count, each⟩ := each
  refine .shaped ⟨by omega, by omega⟩ (.of_length rfl rfl (by omega)) ?_
  rintro part content ⟨member, rfl⟩
  exact each content member

omit faithful in
/-- The components one by one, up to the first that cannot be drawn. -/
theorem components (good : TypeNode → Value → Prop) (failed : TypeNode → σ → Prop)
    (components : List (Component TypeNode))
    (each : ∀ component ∈ components, ∀ state,
      ((module.unfold component.type).draw source options module.name).Ends state
        (good component.type) (failed component.type state)) (state : σ) :
    (drawComponents source options module.name (components.map fun component =>
      ⟨component.name, component.optional, fun _ => module.unfold component.type⟩)).Ends state
      (Filled good components)
      (∃ component now, ComponentStarts source options module components state component now ∧
        failed component.type now) := by
  induction components generalizing state with
  | nil => exact .pure .nil
  | cons component rest ih =>
      obtain ⟨own, others⟩ := List.forall_mem_cons.mp each
      have inclusion : Answers (fun present => present = false → component.optional = true)
          (source.inclusion options component.optional) := by
        intro state
        cases component.optional <;> simp [RandomSource.inclusion]
      rw [List.map_cons, drawComponents_cons]
      -- What is asked first decides which of the ways past this component is taken.
      refine .bind (.ask inclusion) fun present next asked optional => ?_
      have included := Draw.run_ask_eq asked
      cases present with
      | false =>
          refine (ih others next).weaken (fun values => .absent (optional rfl)) ?_
          rintro ⟨other, now, starts, failed⟩
          exact ⟨other, now, .absent included starts, failed⟩
      | true =>
          refine .bind ((own next).blame fun failed => ?_) fun value after run holds => ?_
          · exact ⟨component, next, .first included, failed⟩
          · refine .bind ((ih others after).blame ?_) fun values _ _ filled =>
              .pure (.present holds filled)
            rintro ⟨other, now, starts, failed⟩
            exact ⟨other, now, .present included run starts, failed⟩

omit faithful in
theorem sequence {id : ConstraintId} {components : List (Component TypeNode)}
    (distinct : (components.map (·.name)).Nodup)
    (each : ∀ component ∈ components, Drawn source options module component.type) (state : σ) :
    (drawShape source options module.name (.sequence (components.map fun component =>
      ⟨component.name, component.optional, fun _ => module.unfold component.type⟩))).Ends state
      (Suits options module (.shaped id (.sequence components)))
      (Fails source options module (.shaped id (.sequence components)) state) := by
  have drawn := Faithful.components (Suits options module) (Fails source options module)
    components each state
  refine .bind (drawn.blame ?_) fun values _ _ filled => .pure ?_
  · rintro ⟨component, now, starts, failed⟩
    exact failed.via fun _ => .component starts
  · exact .unsized (filled.fits distinct) rfl (filled.assigned distinct)

/-- One of the alternatives, with what is drawn for it. -/
theorem alternatives (good : TypeNode → Value → Prop) (failed : TypeNode → σ → Prop)
    {alternatives : List (Alternative TypeNode)} (some : alternatives ≠ [])
    (each : ∀ alternative ∈ alternatives, ∀ state,
      ((module.unfold alternative.type).draw source options module.name).Ends state
        (good alternative.type) (failed alternative.type state)) (state : σ) :
    (drawShape source options module.name (.choice (alternatives.map fun alternative =>
      ⟨alternative.name, fun _ => module.unfold alternative.type⟩))).Ends state
      (fun value => ∃ alternative ∈ alternatives, ∃ content,
        value = .choice alternative.name content ∧ good alternative.type content)
      (∃ position now alternative,
        (source.position alternatives.length).run state = (position, now) ∧
          alternatives[position]? = .some alternative ∧ failed alternative.type now) := by
  have positions : Answers (· < alternatives.length) (source.position alternatives.length) :=
    fun state => faithful.position _ state (List.length_pos_iff.mpr some)
  rw [drawShape, if_neg (by simpa using some), List.length_map]
  refine .bind (.ask positions) fun position now asked within => ?_
  have inside : alternatives[position]? = alternatives[position] :=
    List.getElem?_eq_getElem within
  have declared := List.getElem_mem within
  -- From here on only the alternative matters, and that it is a declared one.
  generalize alternatives[position] = alternative at inside declared
  rw [drawAlternative_eq source options module.name _ position
    ⟨alternative.name, fun _ => module.unfold alternative.type⟩ (by simp [inside])]
  refine .bind ((each alternative declared now).blame fun failed => ?_)
    fun content _ _ holds => .pure ⟨alternative, declared, content, rfl, holds⟩
  exact ⟨position, now, alternative, Draw.run_ask_eq asked, inside, failed⟩

theorem choice {id : ConstraintId} {alternatives : List (Alternative TypeNode)}
    (some : alternatives ≠ []) (distinct : (alternatives.map (·.name)).Nodup)
    (each : ∀ alternative ∈ alternatives, Drawn source options module alternative.type)
    (state : σ) :
    (drawShape source options module.name (.choice (alternatives.map fun alternative =>
      ⟨alternative.name, fun _ => module.unfold alternative.type⟩))).Ends state
      (Suits options module (.shaped id (.choice alternatives)))
      (Fails source options module (.shaped id (.choice alternatives)) state) := by
  have drawn := faithful.alternatives (Suits options module) (Fails source options module)
    some each state
  refine drawn.weaken ?_ ?_
  · rintro value ⟨alternative, declared, content, rfl, suits⟩
    refine .unsized (List.mem_map_of_mem declared) rfl ?_
    rintro part contents ⟨other, among, named, rfl, rfl⟩
    obtain rfl := List.inj_on_of_nodup_map distinct declared among named
    exact suits
  · rintro ⟨position, now, alternative, asked, selected, failed⟩
    exact failed.via fun _ => .selected asked selected

theorem shaped (id : ConstraintId) (shape : Shape TypeNode)
    (sound : shape.Sound)
    (finite : ∀ bounds, shape = .real bounds →
      bounds.min.isFinite = true ∧ bounds.max.isFinite = true)
    (each : ∀ part ∈ shape.parts, Drawn source options module part) (state : σ) :
    (drawShape source options module.name (shape.map fun part _ => module.unfold part)).Ends state
      (Suits options module (.shaped id shape))
      (Fails source options module (.shaped id shape) state) := by
  cases shape with
  | integer bounds =>
      exact simple rfl rfl (.bind (.ask (faithful.drawInteger options bounds sound))
        fun _ _ _ within => .pure within)
  | real bounds =>
      obtain ⟨low, high⟩ := finite bounds rfl
      exact simple rfl rfl (.bind (.ask (faithful.drawReal options bounds low high sound.2.2))
        fun _ _ _ within => .pure within)
  | boolean => exact simple rfl rfl (.bind (.ask (.anything _)) fun _ _ _ _ => .pure trivial)
  | null => exact simple rfl rfl (.pure trivial)
  | enumerated items =>
      refine simple rfl rfl ((faithful.drawItem items sound.1 state).weaken ?_ False.elim)
      rintro value ⟨item, declared, rfl⟩
      exact List.mem_map_of_mem declared
  | octetString size =>
      exact faithful.string .octetString (.anything _) rfl rfl sound (fun _ => rfl)
        (fun _ _ low high => by exact ⟨low, high⟩) state
  | bitString size =>
      exact faithful.string .bitString (.anything _) rfl rfl sound (fun _ => rfl)
        (fun _ _ low high => by exact ⟨low, high⟩) state
  | ia5String size =>
      exact faithful.string (fun characters => .ia5String (String.ofList characters))
        faithful.drawCharacter rfl rfl sound (fun _ => by simp [Value.size?])
        (fun _ ascii low high => by simpa [Shape.Fits, low, high] using ascii) state
  | sequenceOf size element =>
      exact faithful.sequenceOf sound (each element (by simp [Shape.parts])) state
  | sequence components =>
      exact Faithful.sequence sound
        (fun component member => each _ (List.mem_map_of_mem member)) state
  | choice alternatives =>
      exact faithful.choice sound.1 sound.2
        (fun alternative member => each _ (List.mem_map_of_mem member)) state

end RandomSource.Faithful

namespace TypeModule

theorem WellFormed.drawn {module : TypeModule} (wellFormed : module.WellFormed)
    (finite : module.FiniteReals) {source : RandomSource σ} (faithful : source.Faithful)
    (options : TestCaseOptions) (assignment : TypeAssignment)
    (declared : assignment ∈ module.types) : Drawn source options module assignment.type := by
  apply wellFormed.nodeInduction ?_ ?_ assignment declared
  · intro id target other found ih state
    rw [unfold_reference wellFormed.acyclic id target other found]
    exact (ih state).weaken (fun _ suits => suits.reference found) fun failed =>
      failed.via fun _ => .reference found
  · intro id shape member sound ih state
    rw [unfold_shaped, TypeTree.draw]
    refine faithful.shaped id shape sound ?_ ih state
    rintro bounds rfl
    exact finite id bounds member

/-- Whatever is answered, an instance that is drawn passes the plan of its type
and holds nothing that is longer than allowed, no question asked on the way is
improper, and with lengths within the limit the draw fails only at a node that
is too large. -/
theorem drawInstance_valid_or_too_large (module : TypeModule) (accepted : module.validate = .ok ())
    (finite : module.FiniteReals) (assignment : TypeAssignment)
    (declared : assignment ∈ module.types) (options : TestCaseOptions)
    (admitted : options.check = .ok ()) {σ : Type} (source : RandomSource σ)
    (faithful : source.Faithful) (state : σ) :
    ∃ plan, module.compile assignment.name = .ok plan ∧
      ∃ result after asked,
        module.drawInstance source options assignment.type state = (result, after) ∧
        module.drawInstance source.recording options assignment.type (state, []) =
          (result, (after, asked)) ∧
        (∀ question ∈ asked, question.Proper) ∧
        (∀ value, result = .ok value → plan.validate value = .ok () ∧
          ∀ inner content size length, Occurs module assignment.type value inner content →
            inner.size? = some size → content.size? = some length →
            length ≤ max size.minSize.toNat options.maxCollectionLen.toNat) ∧
        (options.maxCollectionLen ≤ instanceLimit → ∀ error, result = .error error →
          ∃ inner, Reaches source options module assignment.type state inner ∧
            inner.Oversized) := by
  have wellFormed := wellFormed_of_validate accepted
  obtain ⟨plan, compiled, accepts⟩ := wellFormed.accepting_plan accepted assignment declared
  obtain ⟨asked, proper, recorded⟩ :=
    wellFormed.draw_recorded finite source admitted assignment declared state []
  rw [List.append_nil] at recorded
  have drawn := wellFormed.drawn finite faithful options assignment declared state
  obtain ⟨⟨result, after⟩, run⟩ : ∃ outcome,
      module.drawInstance source options assignment.type state = outcome := ⟨_, rfl⟩
  refine ⟨plan, compiled, result, after, asked, run, ?_, proper, ?_, ?_⟩
  · rw [drawInstance] at run
    rw [run] at recorded
    exact recorded
  · rintro value rfl
    have suits := drawn.of_ok run
    exact ⟨(accepts value).mpr suits.1, fun inner content size length occurs =>
      suits.2 inner content occurs size length⟩
  · rintro allowed error rfl
    exact drawn.of_error run allowed

/-- A source that answers with one end of each range, as its flips say. -/
def flip : StateM (List Bool) Bool := fun flips => (flips.headD false, flips.tail)

def oneEnd {α : Type} (low high : α) : StateM (List Bool) α := do
  return if ← flip then high else low

def extremes : RandomSource (List Bool) where
  chance _ := flip
  integerWithin := oneEnd
  lengthWithin := oneEnd
  realWithin := oneEnd
  position count := oneEnd 0 (count - 1)
  octet := oneEnd 0 255
  octetWithin := oneEnd

theorem oneEnd_answers {α : Type} {good : α → Prop} {low high : α} (one : good low)
    (other : good high) : Answers good (oneEnd low high) := by
  refine (Answers.anything flip).bind fun takesHigh _ => .pure ?_
  cases takesHigh with
  | true => exact other
  | false => exact one

theorem extremes_faithful : extremes.Faithful where
  integerWithin low high flips proper := by
    have ends : Answers (fun n => low ≤ n ∧ n ≤ high) (oneEnd low high) :=
      oneEnd_answers ⟨Int64.le_refl _, proper⟩ ⟨proper, Int64.le_refl _⟩
    exact ends flips
  lengthWithin low high flips proper := by
    have ends : Answers (fun n => low ≤ n ∧ n ≤ high) (oneEnd low high) :=
      oneEnd_answers ⟨UInt64.le_refl _, proper⟩ ⟨proper, UInt64.le_refl _⟩
    exact ends flips
  realWithin low high flips proper := by
    obtain ⟨atLow, atHigh, ordered, _⟩ := proper
    have ends : Answers (fun x => low.atMost x = true ∧ x.atMost high = true) (oneEnd low high) := by
      apply oneEnd_answers <;>
        simp [Binary64.atMost, Binary64.finite_not_nan atLow, Binary64.finite_not_nan atHigh, ordered]
    exact ends flips
  position count flips proper := by
    have ends : Answers (· < count) (oneEnd 0 (count - 1)) :=
      oneEnd_answers proper (Nat.sub_lt proper Nat.one_pos)
    exact ends flips
  octetWithin low high flips proper := by
    have ends : Answers (fun n => low ≤ n ∧ n ≤ high) (oneEnd low high) :=
      oneEnd_answers ⟨UInt8.le_refl _, proper⟩ ⟨proper, UInt8.le_refl _⟩
    exact ends flips

def probe : TypeAssignment :=
  ⟨"Probe", .shaped 1 (.sequence [⟨"scale", false, .shaped 2 (.real .unconstrained)⟩,
    ⟨"marks", true, .shaped 3 (.sequenceOf ⟨1, 40⟩ (.reference 0 "Mark"))⟩])⟩

/-- A scale of any size, and marks that are drawn up to 16 at a time. -/
def probes : TypeModule :=
  ⟨modelVersion, "Probes", [probe, ⟨"Mark", .shaped 4 (.ia5String ⟨0, 3⟩)⟩]⟩

theorem probes_finite : probes.FiniteReals := by
  intro id bounds member
  obtain ⟨rfl, rfl⟩ : id = 2 ∧ bounds = .unconstrained := by
    simpa [nodes, probes, probe, TypeNode.nodes, TypeNode.componentNodes] using member
  exact ⟨by decide, by decide⟩

theorem probes_draws_valid :
    probes.validate = .ok () ∧ probes.FiniteReals ∧ probe ∈ probes.types ∧
      TestCaseOptions.standard.check = .ok () ∧ extremes.Faithful ∧
      ∃ plan, probes.compile probe.name = .ok plan ∧
        ∃ result after asked,
          probes.drawInstance extremes .standard probe.type [false, true] = (result, after) ∧
          probes.drawInstance extremes.recording .standard probe.type ([false, true], []) =
            (result, (after, asked)) ∧
          (∀ question ∈ asked, question.Proper) ∧
          (∀ value, result = .ok value → plan.validate value = .ok () ∧
            ∀ inner content size length, Occurs probes probe.type value inner content →
              inner.size? = some size → content.size? = some length →
              length ≤ max size.minSize.toNat TestCaseOptions.standard.maxCollectionLen.toNat) ∧
          (TestCaseOptions.standard.maxCollectionLen ≤ instanceLimit →
            ∀ error, result = .error error →
              ∃ inner, Reaches extremes .standard probes probe.type [false, true] inner ∧
                inner.Oversized) :=
  ⟨rfl, probes_finite, List.mem_cons_self, rfl, extremes_faithful,
    drawInstance_valid_or_too_large probes rfl probes_finite probe List.mem_cons_self .standard
      rfl extremes extremes_faithful [false, true]⟩

example : (probes.drawInstance extremes .standard probe.type (List.replicate 5 true)).1 =
    .ok (.sequence [("scale", .real .least), ("marks", .sequenceOf [.ia5String ""])]) := rfl

end TypeModule

end Asn1Constraints
