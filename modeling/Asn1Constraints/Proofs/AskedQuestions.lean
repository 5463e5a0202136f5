import Asn1Constraints.Instances.Draw
import Asn1Constraints.Proofs.RoundedMagnitudes
import Asn1Constraints.Proofs.Unfolding
import Mathlib

/-!
What a draw asks its source. A source that keeps a record answers as the source
it was made from, so the record shows what every draw asks; in a well-formed
module with finite reals no question is without an answer.
-/

namespace Asn1Constraints

inductive Question where
  | chance (probability : Binary64)
  | integerWithin (low high : Int64)
  | lengthWithin (low high : UInt64)
  | realWithin (low high : Binary64)
  | position (count : Nat)
  | octet
  | octetWithin (low high : UInt8)

/-- A question that has an answer: a probability is within 0..=1, a range is not
empty, and a range of reals has a finite span. -/
def Question.Proper : Question → Prop
  | .chance probability => probability.IsFraction
  | .integerWithin low high => low ≤ high
  | .lengthWithin low high => low ≤ high
  | .realWithin low high =>
    low.isFinite = true ∧ high.isFinite = true ∧ low.rank ≤ high.rank ∧
      (high.sub low).isFinite = true
  | .position count => 0 < count
  | .octet => True
  | .octetWithin low high => low ≤ high

/-- Every real of the module has finite bounds. -/
def TypeModule.FiniteReals (module : TypeModule) : Prop :=
  ∀ id bounds, TypeNode.shaped id (.real bounds) ∈ module.nodes →
    bounds.min.isFinite = true ∧ bounds.max.isFinite = true

variable {σ α β : Type}

/-- Put a question on record, the latest first, and ask it. -/
def keeping (question : Question) (asked : StateM σ α) : StateM (σ × List Question) α :=
  fun (state, record) =>
    let (answer, after) := asked.run state
    (answer, (after, question :: record))

/-- The same source, with a record of what it was asked. -/
def RandomSource.recording (source : RandomSource σ) : RandomSource (σ × List Question) where
  chance probability := keeping (.chance probability) (source.chance probability)
  integerWithin low high := keeping (.integerWithin low high) (source.integerWithin low high)
  lengthWithin low high := keeping (.lengthWithin low high) (source.lengthWithin low high)
  realWithin low high := keeping (.realWithin low high) (source.realWithin low high)
  position count := keeping (.position count) (source.position count)
  octet := keeping .octet source.octet
  octetWithin low high := keeping (.octetWithin low high) (source.octetWithin low high)

/-- The record grows by proper questions, and nothing else tells the runs apart. -/
def Recorded (plain : StateM σ α) (recorded : StateM (σ × List Question) α) : Prop :=
  ∀ state record, ∃ asked : List Question, (∀ question ∈ asked, question.Proper) ∧
    recorded.run (state, record) =
      ((plain.run state).1, ((plain.run state).2, asked ++ record))

namespace Recorded

theorem keeping (question : Question) (proper : question.Proper) (asked : StateM σ α) :
    Recorded asked (keeping question asked) :=
  fun _ _ => ⟨[question], by simpa using proper, rfl⟩

theorem pure (result : α) : Recorded (σ := σ) (pure result) (pure result) :=
  fun _ _ => ⟨[], by simp, rfl⟩

theorem bind {plain : StateM σ α} {recorded : StateM (σ × List Question) α}
    {next : α → StateM σ β} {recordedNext : α → StateM (σ × List Question) β}
    (first : Recorded plain recorded) (rest : ∀ result, Recorded (next result) (recordedNext result)) :
    Recorded (plain >>= next) (recorded >>= recordedNext) := by
  intro state record
  obtain ⟨asked, proper, same⟩ := first state record
  obtain ⟨more, properMore, sameMore⟩ :=
    rest (plain.run state).1 (plain.run state).2 (asked ++ record)
  refine ⟨more ++ asked, ?_, ?_⟩
  · intro question member
    rcases List.mem_append.mp member with later | earlier
    · exact properMore question later
    · exact proper question earlier
  · simp only [StateT.run_bind, same, List.append_assoc]
    exact sameMore

/-! Draws that may fail. -/

theorem draw_bind {plain : Draw σ α} {recorded : Draw (σ × List Question) α}
    {next : α → Draw σ β} {recordedNext : α → Draw (σ × List Question) β}
    (first : Recorded plain.run recorded.run)
    (rest : ∀ result, Recorded (next result).run (recordedNext result).run) :
    Recorded (plain >>= next).run (recorded >>= recordedNext).run := by
  rw [ExceptT.run_bind, ExceptT.run_bind]
  refine bind first fun result => ?_
  cases result with
  | error error => exact pure _
  | ok result => exact rest result

theorem ask {plain : StateM σ α} {recorded : StateM (σ × List Question) α}
    (asked : Recorded plain recorded) : Recorded (Draw.ask plain).run (Draw.ask recorded).run :=
  bind asked fun _ => pure _

theorem give (result : Except Error α) :
    Recorded (σ := σ) (Draw.give result).run (Draw.give result).run :=
  pure result

theorem manyWith {one : Draw σ α} {recordedOne : Draw (σ × List Question) α}
    (each : Recorded one.run recordedOne.run) (count : Nat) (drawn : List α) :
    Recorded (Draw.manyWith one count drawn).run (Draw.manyWith recordedOne count drawn).run := by
  induction count generalizing drawn with
  | zero => exact pure _
  | succ count ih => exact draw_bind each fun next => ih (next :: drawn)

end Recorded

namespace TestCaseOptions

theorem check_ok_iff (options : TestCaseOptions) :
    options.check = .ok () ↔
      options.optionalPresence.IsFraction ∧ options.boundaryBias.IsFraction := by
  simp only [check, isProbability, Binary64.IsFraction]
  grind

end TestCaseOptions

/-- Whether a component is to be present. -/
def RandomSource.inclusion (source : RandomSource σ) (options : TestCaseOptions)
    (optional : Bool) : StateM σ Bool :=
  if optional then source.chance options.optionalPresence else pure true

theorem drawComponents_cons (source : RandomSource σ) (options : TestCaseOptions)
    (module : String) (component : Component Branch) (rest : List (Component Branch)) :
    drawComponents source options module (component :: rest) = (do
      if ← Draw.ask (source.inclusion options component.optional) then
        let value ← (component.type ()).draw source options module
        let values ← drawComponents source options module rest
        return (component.name, value) :: values
      else drawComponents source options module rest) := by
  obtain ⟨name, optional, type⟩ := component
  cases optional <;> simp [drawComponents, RandomSource.inclusion, Draw.ask]

theorem Binary64.half_isFraction : half.IsFraction := ⟨by decide, by decide⟩

theorem RandomSource.longest_toNat (options : TestCaseOptions) (size : SizeBounds) :
    (longest options size).toNat =
      min size.maxSize.toNat (max size.minSize.toNat options.maxCollectionLen.toNat) := by
  have least : (max size.minSize options.maxCollectionLen).toNat =
      max size.minSize.toNat options.maxCollectionLen.toNat := apply_ite UInt64.toNat _ _ _
  rw [← least]
  exact apply_ite UInt64.toNat _ _ _

theorem RandomSource.le_longest (options : TestCaseOptions) (size : SizeBounds)
    (sound : size.minSize ≤ size.maxSize) : size.minSize ≤ longest options size := by
  rw [UInt64.le_iff_toNat_le] at sound ⊢
  rw [longest_toNat]
  omega

theorem Question.unit_proper : (Question.realWithin Binary64.zero Binary64.one).Proper :=
  ⟨by decide, by decide, by decide, Binary64.sub_finite _ _ (by decide) (by decide) (by decide)⟩

namespace RandomSource

variable (source : RandomSource σ)

theorem chance_recorded (probability : Binary64) (proper : probability.IsFraction) :
    Recorded (source.chance probability) (source.recording.chance probability) :=
  .keeping (.chance probability) proper _

theorem integerWithin_recorded (low high : Int64) (proper : low ≤ high) :
    Recorded (source.integerWithin low high) (source.recording.integerWithin low high) :=
  .keeping (.integerWithin low high) proper _

theorem lengthWithin_recorded (low high : UInt64) (proper : low ≤ high) :
    Recorded (source.lengthWithin low high) (source.recording.lengthWithin low high) :=
  .keeping (.lengthWithin low high) proper _

theorem realWithin_recorded (low high : Binary64)
    (proper : (Question.realWithin low high).Proper) :
    Recorded (source.realWithin low high) (source.recording.realWithin low high) :=
  .keeping _ proper _

theorem position_recorded (count : Nat) (proper : 0 < count) :
    Recorded (source.position count) (source.recording.position count) :=
  .keeping (.position count) proper _

theorem octet_recorded : Recorded source.octet source.recording.octet :=
  .keeping .octet trivial _

theorem octetWithin_recorded (low high : UInt8) (proper : low ≤ high) :
    Recorded (source.octetWithin low high) (source.recording.octetWithin low high) :=
  .keeping (.octetWithin low high) proper _

theorem either_recorded (first second : α) :
    Recorded (source.either first second) (source.recording.either first second) :=
  .bind (source.chance_recorded _ Binary64.half_isFraction) fun _ => .pure _

theorem drawCharacter_recorded :
    Recorded source.drawCharacter source.recording.drawCharacter :=
  .bind (source.octetWithin_recorded _ _ (by decide)) fun _ => .pure _

theorem drawItem_recorded (items : List EnumItem) :
    Recorded (source.drawItem items).run (source.recording.drawItem items).run := by
  cases items with
  | nil => exact .give _
  | cons item rest =>
      exact .draw_bind (.ask (source.position_recorded _ (by simp))) fun _ => .pure _

section

variable {options : TestCaseOptions} (accepted : options.check = .ok ())

include accepted

theorem biased_recorded {plain : StateM σ α} {recorded : StateM (σ × List Question) α}
    (first second : α) (otherwise : Recorded plain recorded) :
    Recorded
      (do if ← source.chance options.boundaryBias then source.either first second else plain)
      (do if ← source.recording.chance options.boundaryBias
          then source.recording.either first second else recorded) := by
  have bias := (options.check_ok_iff.mp accepted).2
  refine .bind (source.chance_recorded _ bias) fun atBoundary => ?_
  cases atBoundary with
  | true => exact source.either_recorded first second
  | false => exact otherwise

theorem drawInteger_recorded (bounds : IntegerBounds) (sound : bounds.min ≤ bounds.max) :
    Recorded (source.drawInteger options bounds) (source.recording.drawInteger options bounds) := by
  unfold drawInteger
  split
  · exact .pure _
  · exact source.biased_recorded accepted _ _ (source.integerWithin_recorded _ _ sound)

theorem drawReal_recorded (bounds : RealBounds) (low : bounds.min.isFinite = true)
    (high : bounds.max.isFinite = true) (ordered : bounds.min.rank ≤ bounds.max.rank) :
    Recorded (source.drawReal options bounds) (source.recording.drawReal options bounds) := by
  unfold drawReal
  split
  · exact .pure _
  · refine source.biased_recorded accepted _ _ ?_
    split
    · rename_i finite
      exact source.realWithin_recorded _ _ ⟨low, high, ordered, finite⟩
    · exact .bind (source.realWithin_recorded _ _ Question.unit_proper) fun _ =>
        .bind (source.either_recorded _ _) fun _ => .pure _

theorem drawSize_recorded (size : SizeBounds) (sound : size.minSize ≤ size.maxSize) :
    Recorded (source.drawSize options size) (source.recording.drawSize options size) := by
  have upper := le_longest options size sound
  unfold drawSize
  simp only
  split
  · exact .pure _
  · exact source.biased_recorded accepted _ _ (source.lengthWithin_recorded _ _ upper)

theorem drawLength_recorded (size : SizeBounds) (sound : size.minSize ≤ size.maxSize) :
    Recorded (source.drawLength options size).run
      (source.recording.drawLength options size).run :=
  .draw_bind (.ask (source.drawSize_recorded accepted size sound)) fun _ => .give _

theorem inclusion_recorded (optional : Bool) :
    Recorded (source.inclusion options optional) (source.recording.inclusion options optional) := by
  unfold inclusion
  split
  · exact source.chance_recorded _ (options.check_ok_iff.mp accepted).1
  · exact .pure _

/-! Shapes, from their parts. -/

variable {module : TypeModule}

/-- Drawing a node asks proper questions only. -/
def DrawRecorded (options : TestCaseOptions) (module : TypeModule) (node : TypeNode) : Prop :=
  Recorded ((module.unfold node).draw source options module.name).run
    ((module.unfold node).draw source.recording options module.name).run

theorem drawComponents_recorded (components : List (Component TypeNode))
    (each : ∀ component ∈ components, source.DrawRecorded options module component.type) :
    Recorded
      (drawComponents source options module.name (components.map fun component =>
        ⟨component.name, component.optional, fun _ => module.unfold component.type⟩)).run
      (drawComponents source.recording options module.name (components.map fun component =>
        ⟨component.name, component.optional, fun _ => module.unfold component.type⟩)).run := by
  induction components with
  | nil => exact .pure _
  | cons component rest ih =>
      obtain ⟨own, others⟩ := List.forall_mem_cons.mp each
      have after := ih others
      rw [List.map_cons, drawComponents_cons, drawComponents_cons]
      refine .draw_bind (.ask (source.inclusion_recorded accepted _)) fun present => ?_
      cases present with
      | true => exact .draw_bind own fun _ => .draw_bind after fun _ => .pure _
      | false => exact after

omit accepted in
theorem drawAlternative_recorded (alternatives : List (Alternative TypeNode))
    (each : ∀ alternative ∈ alternatives, source.DrawRecorded options module alternative.type)
    (position : Nat) :
    Recorded
      (drawAlternative source options module.name position (alternatives.map fun alternative =>
        ⟨alternative.name, fun _ => module.unfold alternative.type⟩)).run
      (drawAlternative source.recording options module.name position
        (alternatives.map fun alternative =>
          ⟨alternative.name, fun _ => module.unfold alternative.type⟩)).run := by
  induction alternatives generalizing position with
  | nil => exact .give _
  | cons alternative rest ih =>
      obtain ⟨own, others⟩ := List.forall_mem_cons.mp each
      simp only [List.map_cons, drawAlternative]
      split
      · exact .draw_bind own fun _ => .pure _
      · exact ih others _

theorem drawShape_recorded (shape : Shape TypeNode) (sound : shape.Sound)
    (finite : ∀ bounds, shape = .real bounds →
      bounds.min.isFinite = true ∧ bounds.max.isFinite = true)
    (each : ∀ part ∈ shape.parts, source.DrawRecorded options module part) :
    Recorded (drawShape source options module.name (shape.map fun part _ => module.unfold part)).run
      (drawShape source.recording options module.name
        (shape.map fun part _ => module.unfold part)).run := by
  cases shape with
  | integer bounds =>
      exact .draw_bind (.ask (source.drawInteger_recorded accepted bounds sound)) fun _ => .pure _
  | real bounds =>
      obtain ⟨low, high⟩ := finite bounds rfl
      exact .draw_bind (.ask (source.drawReal_recorded accepted bounds low high sound.2.2))
        fun _ => .pure _
  | boolean =>
      exact .draw_bind (.ask (source.chance_recorded _ Binary64.half_isFraction)) fun _ => .pure _
  | null => exact .pure _
  | enumerated items => exact source.drawItem_recorded items
  | octetString size =>
      exact .draw_bind (source.drawLength_recorded accepted size sound) fun length =>
        .draw_bind (.manyWith (.ask source.octet_recorded) length []) fun _ => .pure _
  | bitString size =>
      exact .draw_bind (source.drawLength_recorded accepted size sound) fun length =>
        .draw_bind (.manyWith (.ask (source.chance_recorded _ Binary64.half_isFraction)) length [])
          fun _ => .pure _
  | ia5String size =>
      exact .draw_bind (source.drawLength_recorded accepted size sound) fun length =>
        .draw_bind (.manyWith (.ask source.drawCharacter_recorded) length []) fun _ => .pure _
  | sequenceOf size element =>
      exact .draw_bind (source.drawLength_recorded accepted size sound) fun length =>
        .draw_bind (.manyWith (each element (by simp [Shape.parts])) length []) fun _ => .pure _
  | sequence components =>
      exact .draw_bind (source.drawComponents_recorded accepted components
        fun component member => each _ (List.mem_map_of_mem member)) fun _ => .pure _
  | choice alternatives =>
      -- There is an alternative, so the question for a position is a proper one.
      obtain ⟨first, rest, rfl⟩ := List.exists_cons_of_ne_nil sound.1
      exact .draw_bind (.ask (source.position_recorded _ (by simp))) fun position =>
        source.drawAlternative_recorded _
          (fun alternative member => each _ (List.mem_map_of_mem member)) position

end

end RandomSource

/-- Whatever the answers are, only proper questions are asked for an instance
of a declared type. -/
theorem TypeModule.WellFormed.draw_recorded {module : TypeModule} (wellFormed : module.WellFormed)
    (finite : module.FiniteReals) (source : RandomSource σ) {options : TestCaseOptions}
    (accepted : options.check = .ok ()) (assignment : TypeAssignment)
    (declared : assignment ∈ module.types) :
    source.DrawRecorded options module assignment.type := by
  apply wellFormed.nodeInduction ?_ ?_ assignment declared
  · intro id target other found ih
    rw [RandomSource.DrawRecorded, unfold_reference wellFormed.acyclic id target other found]
    exact ih
  · intro id shape member sound ih
    rw [RandomSource.DrawRecorded, unfold_shaped]
    refine source.drawShape_recorded accepted shape sound ?_ ih
    rintro bounds rfl
    exact finite id bounds member

end Asn1Constraints
