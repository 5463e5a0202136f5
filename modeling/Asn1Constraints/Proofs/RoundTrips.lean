import Asn1Constraints.Proofs.BoundaryCalls
import Asn1Constraints.Proofs.DocumentQueue
import Mathlib

/-!
Round trips through JSON lines. Where nothing is unread, the outcome is settled
by the value and its type alone. A value that is written but whose document is
not taken again, for want of a default instance or because it nests too deep,
stays unread and is met by the next round trip; all others leave nothing behind.
-/

namespace Asn1Constraints

namespace CompiledModule

open JsonLines

namespace Serves

variable {compiled : CompiledModule} {typeName : String} {plan : ValidationPlan}
  {node : TypeNode} {value : Value} {lines : JsonLines}
  (serves : compiled.Serves typeName plan node)

include serves

theorem declared : ∃ assignment ∈ compiled.module.types, assignment.type = node := by
  have located := serves.located
  rw [typeNode, TypeModule.require] at located
  split at located
  · rename_i assignment found
    exact ⟨assignment, (TypeModule.declared_of_find? found).1, Except.ok.inj located⟩
  · cases located

theorem roundTrip_rejected {σ ε : Type} {codec : Codec σ ε} {state : σ} {violation : Violation}
    (refused : plan.validate value = .error violation) :
    compiled.roundTrip codec typeName value state =
      (.error (.encode (.rejected violation)), state) :=
  roundTrip_encode (serves.encode_rejected refused)

variable (valid : plan.validate value = .ok ())

include valid

theorem roundTrip_unwritten {error : Asn1Constraints.Error}
    (refused : value.toJson compiled.module node = .error error) :
    compiled.roundTrip codec typeName value lines =
      (.error (.encode (.codec (.model error))), lines) := by
  have called : codec.encode compiled.module node value lines = (.error (.model error), lines) :=
    encode_of_refused refused lines
  have step := serves.encode_valid valid called
  exact roundTrip_encode step

variable {json : Json} (written : value.toJson compiled.module node = .ok json)

include written

theorem encode_written :
    compiled.encode codec typeName value lines = (.ok (), lines.append json) := by
  have called : codec.encode compiled.module node value lines = (.ok (), lines.append json) :=
    encode_of_written written lines
  exact serves.encode_valid valid called

theorem roundTrip_seedless {error : Asn1Constraints.Error}
    (none : compiled.module.defaultInstance node = .error error) :
    compiled.roundTrip codec typeName value lines =
      (.error (.decode (.model error)), lines.append json) :=
  roundTrip_decode (serves.encode_written valid written) (serves.decode_seedless none)

variable {seed : Value} (seeded : compiled.module.defaultInstance node = .ok seed)
  (holds : Holds lines [])

include seeded holds

theorem roundTrip_deep (deep : Json.levelLimit < json.depth) :
    compiled.roundTrip codec typeName value lines =
      (.error (.decode (.codec .json)), lines.append json) := by
  have queued := holds.append (Value.toJson_settled written)
  exact roundTrip_decode (serves.encode_written valid written)
    (serves.decode_unread seeded (queued.decode_deep deep))

/-- What was written is taken again, and is the normal form of the value. -/
theorem roundTrip_back (wellFormed : compiled.module.WellFormed)
    (shallow : json.depth ≤ Json.levelLimit) :
    ∃ after, compiled.roundTrip codec typeName value lines =
        (.ok (value.normal compiled.module node), after) ∧ Holds after [] := by
  have conforms := (serves.accepts value).mp valid
  have form := wellFormed.normalized_eq_normal node serves.sound value
  have read : Value.ofJson compiled.module node json = .ok (value.normal compiled.module node) := by
    obtain ⟨assignment, declared, rfl⟩ := serves.declared
    obtain ⟨normal, back, same⟩ :=
      wellFormed.roundTrips assignment declared value conforms "$" json written
    obtain rfl := Except.ok.inj (form.symm.trans same)
    exact back "$"
  obtain ⟨after, taken, left⟩ := (holds.append (Value.toJson_settled written)).decode_cons
    compiled.module node shallow
  rw [read] at taken
  have accepted : plan.validate (value.normal compiled.module node) = .ok () :=
    (serves.accepts _).mpr (wellFormed.normal_conforms node serves.sound value conforms)
  -- The comparison is of the normal form with itself, which fails for NaN alone.
  have compared : (compiled.compareDecoded typeName value (value.normal compiled.module node) :
      Except (RoundTripError JsonLines.Error) Value) = .ok (value.normal compiled.module node) := by
    rw [serves.compareDecoded_eq wellFormed, wellFormed.normal_normal node serves.sound,
      if_pos (Value.ofJson_same read)]
  refine ⟨after, ?_, left⟩
  rw [roundTrip_compare (serves.encode_written valid written)
    (serves.decode_valid seeded taken accepted), compared]

end Serves

/-! One round trip. -/

/-- What is written for the pair, if anything is, can be taken again. -/
def LeavesNothing (compiled : CompiledModule) (pair : String × Value) : Prop :=
  ∀ plan node json, compiled.requirePlan pair.1 = .ok plan → plan.validate pair.2 = .ok () →
    compiled.typeNode pair.1 = .ok node → pair.2.toJson compiled.module node = .ok json →
      json.depth ≤ Json.levelLimit ∧ ∃ seed, compiled.module.defaultInstance node = .ok seed

section

variable {module : TypeModule} {compiled : CompiledModule} (built : ofModule module = .ok compiled)

include built

/-- Where nothing is unread the result does not depend on the lines, and a
failure is one of encoding or of decoding. -/
theorem roundTrip_settled (pair : String × Value) :
    ∃ result : Except (RoundTripError JsonLines.Error) Value,
      (∀ error, result = .error error → error.stage = 1 ∨ error.stage = 2) ∧
        ∀ lines, Holds lines [] → ∃ after,
          compiled.roundTrip codec pair.1 pair.2 lines = (result, after) ∧
            (compiled.LeavesNothing pair → Holds after []) := by
  obtain ⟨typeName, value⟩ := pair
  rcases serves_or_unknown built typeName with ⟨plan, node, serves⟩ | unknown
  · cases checked : plan.validate value with
    | error violation =>
        refine ⟨_, ?_, fun lines holds =>
          ⟨lines, serves.roundTrip_rejected checked, fun _ => holds⟩⟩
        rintro _ ⟨⟩
        exact .inl rfl
    | ok _ =>
        cases written : value.toJson compiled.module node with
        | error cause =>
            refine ⟨_, ?_, fun lines holds =>
              ⟨lines, serves.roundTrip_unwritten checked written, fun _ => holds⟩⟩
            rintro _ ⟨⟩
            exact .inl rfl
        | ok json =>
            have taken : compiled.LeavesNothing (typeName, value) → json.depth ≤ Json.levelLimit ∧
                ∃ seed, compiled.module.defaultInstance node = .ok seed :=
              fun clean => clean plan node json serves.planned checked serves.located written
            -- From here on the document is among the lines; it stays there unless it is taken.
            cases seeded : compiled.module.defaultInstance node with
            | error cause =>
                refine ⟨_, ?_, fun lines _ =>
                  ⟨_, serves.roundTrip_seedless checked written seeded, fun clean => ?_⟩⟩
                · rintro _ ⟨⟩
                  exact .inr rfl
                · obtain ⟨_, seed, found⟩ := taken clean
                  cases seeded.symm.trans found
            | ok seed =>
                by_cases shallow : json.depth ≤ Json.levelLimit
                · refine ⟨.ok (value.normal compiled.module node), nofun, fun lines holds => ?_⟩
                  obtain ⟨after, back, left⟩ := serves.roundTrip_back checked written seeded holds
                    (wellFormed_of_built built) shallow
                  exact ⟨after, back, fun _ => left⟩
                · refine ⟨_, ?_, fun lines holds =>
                    ⟨_, serves.roundTrip_deep checked written seeded holds (not_le.mp shallow),
                      fun clean => absurd (taken clean).1 shallow⟩⟩
                  rintro _ ⟨⟩
                  exact .inr rfl
  · refine ⟨_, ?_, fun lines holds =>
      ⟨lines, roundTrip_encode (encode_unknown unknown), fun _ => holds⟩⟩
    rintro _ ⟨⟩
    exact .inl rfl

/-- Through lines with nothing unread a valid value that can be written comes
back as its normal form, unless the type has no default instance or the document
nests too deep. No other stage than these two fails. -/
theorem roundTrip_outcome {assignment : TypeAssignment} (declared : assignment ∈ module.types)
    (value : Value) (lines : JsonLines) (within : lines.cursor ≤ lines.bytes.length)
    (nothing : lines.nextLine? = none) :
    ∃ plan, compiled.requirePlan assignment.name = .ok plan ∧
      (∀ violation, plan.validate value = .error violation →
        compiled.roundTrip codec assignment.name value lines =
          (.error (.encode (.rejected violation)), lines)) ∧
      (plan.validate value = .ok () →
        (∀ error, value.toJson module assignment.type = .error error →
          compiled.roundTrip codec assignment.name value lines =
            (.error (.encode (.codec (.model error))), lines)) ∧
        ∀ json, value.toJson module assignment.type = .ok json →
          (∀ error, module.defaultInstance assignment.type = .error error →
            compiled.roundTrip codec assignment.name value lines =
              (.error (.decode (.model error)), lines.append json)) ∧
          ∀ seed, module.defaultInstance assignment.type = .ok seed →
            (Json.levelLimit < json.depth →
              compiled.roundTrip codec assignment.name value lines =
                (.error (.decode (.codec .json)), lines.append json)) ∧
            (json.depth ≤ Json.levelLimit →
              ∃ normal after, value.normalized module assignment.type = .ok normal ∧
                compiled.roundTrip codec assignment.name value lines = (.ok normal, after) ∧
                  after.cursor ≤ after.bytes.length ∧ after.nextLine? = none)) ∧
      ∀ error after, compiled.roundTrip codec assignment.name value lines = (.error error, after) →
        error.stage = 1 ∨ error.stage = 2 := by
  have wellFormed := wellFormed_of_built built
  have holds := (holds_nil_iff lines).mpr ⟨within, nothing⟩
  obtain ⟨plan, serves⟩ := serves_declared built assignment declared
  obtain ⟨_, rfl, _⟩ := ofModule_ok built
  refine ⟨plan, serves.planned, fun violation => serves.roundTrip_rejected, fun valid => ?_, ?_⟩
  · refine ⟨fun error => serves.roundTrip_unwritten valid, fun json written => ?_⟩
    refine ⟨fun error => serves.roundTrip_seedless valid written, fun seed seeded => ?_⟩
    refine ⟨serves.roundTrip_deep valid written seeded holds, fun shallow => ?_⟩
    obtain ⟨after, back, left⟩ :=
      serves.roundTrip_back valid written seeded holds wellFormed shallow
    obtain ⟨inside, idle⟩ := (holds_nil_iff after).mp left
    exact ⟨_, after, wellFormed.normalized_eq_normal _ serves.sound value, back, inside, idle⟩
  · intro error after failed
    obtain ⟨result, staged, settled⟩ := roundTrip_settled built (assignment.name, value)
    obtain ⟨_, reached, _⟩ := settled lines holds
    exact staged error (congrArg Prod.fst (reached.symm.trans failed))

end

theorem seconds_outcome :
    ∃ compiled, ofModule TypeModule.measures = .ok compiled ∧
      TypeModule.measure ∈ TypeModule.measures.types ∧ JsonLines.empty.nextLine? = none ∧
        ∃ after,
          compiled.roundTrip codec TypeModule.measure.name TypeModule.seconds JsonLines.empty =
            (.ok (.sequence [("unit", .enumerated 2),
              ("readings", .sequenceOf [.octetString [10, 255], .octetString []])]), after) ∧
          after.nextLine? = none := by
  have built : ofModule TypeModule.measures = .ok _ := rfl
  obtain ⟨plan, planned, _, settled, _⟩ := roundTrip_outcome built (List.mem_cons_self)
    TypeModule.seconds JsonLines.empty (Nat.le_refl 0) rfl
  have valid : plan.validate TypeModule.seconds = .ok () := by
    cases planned
    rfl
  have written : TypeModule.seconds.toJson TypeModule.measures TypeModule.measure.type = .ok _ :=
    rfl
  have seeded : TypeModule.measures.defaultInstance TypeModule.measure.type = .ok _ := rfl
  obtain ⟨normal, after, form, back, _, idle⟩ :=
    (((settled valid).2 _ written).2 _ seeded).2 (by decide)
  obtain rfl := Except.ok.inj form
  exact ⟨_, built, List.mem_cons_self, rfl, after, back, idle⟩

/-! Round trips one after the other. -/

/-- The results of the round trips through the same lines. -/
def shared (compiled : CompiledModule) :
    List (String × Value) → JsonLines → List (Except (RoundTripError JsonLines.Error) Value)
  | [], _ => []
  | pair :: rest, lines =>
    let outcome : Except (RoundTripError JsonLines.Error) Value × JsonLines :=
      compiled.roundTrip codec pair.1 pair.2 lines
    outcome.1 :: shared compiled rest outcome.2

/-- The result of the round trip through lines of its own. -/
def alone (compiled : CompiledModule) (pair : String × Value) :
    Except (RoundTripError JsonLines.Error) Value :=
  (compiled.roundTrip codec pair.1 pair.2 JsonLines.empty).1

section

variable {module : TypeModule} {compiled : CompiledModule} (built : ofModule module = .ok compiled)

include built

theorem shared_of_holds (pairs : List (String × Value)) :
    ∀ lines, Holds lines [] → (∀ pair ∈ pairs.dropLast, compiled.LeavesNothing pair) →
      compiled.shared pairs lines = pairs.map compiled.alone := by
  induction pairs with
  | nil => exact fun _ _ _ => rfl
  | cons pair rest ih =>
      intro lines holds clean
      obtain ⟨result, _, settled⟩ := roundTrip_settled built pair
      obtain ⟨after, here, left⟩ := settled lines holds
      obtain ⟨_, fresh, _⟩ := settled JsonLines.empty holds_empty
      have first : compiled.alone pair = result := by
        rw [alone, fresh]
      rw [shared, List.map_cons, first]
      simp only [here]
      -- What the last pair leaves behind is met by no other.
      cases rest with
      | nil => rfl
      | cons next others =>
          rw [List.dropLast_cons_of_ne_nil (List.cons_ne_nil _ _)] at clean
          obtain ⟨own, later⟩ := List.forall_mem_cons.mp clean
          rw [ih after (left own) later]

/-- Round trips through the same lines do not disturb each other as long as each
before the last takes again what it writes. -/
theorem shared_undisturbed (pairs : List (String × Value))
    (clean : ∀ pair ∈ pairs.dropLast, compiled.LeavesNothing pair) :
    compiled.shared pairs JsonLines.empty = pairs.map compiled.alone :=
  shared_of_holds built pairs JsonLines.empty holds_empty clean

end

def level : TypeAssignment :=
  ⟨"Level", .shaped 1 (.choice [
    ⟨"trace", .shaped 2 (.octetString ⟨0x1000001, 0x1000001⟩)⟩,
    ⟨"mean", .shaped 3 (.integer ⟨0, 9⟩)⟩])⟩

def tally : TypeAssignment := ⟨"Tally", .shaped 4 (.integer ⟨0, 9⟩)⟩

/-- A level has no default instance, since its first alternative is too large for one. -/
def gauges : TypeModule := ⟨modelVersion, "Gauges", [level, tally]⟩

def meanLevel : Value := .choice "mean" (.integer 5)

theorem tally_conforms : Conforms gauges tally.type (.integer 7) :=
  .of_bare rfl ⟨by decide, by decide⟩

theorem meanLevel_conforms : Conforms gauges level.type meanLevel := by
  refine .shaped (by simp [meanLevel, Shape.Fits]) fun part content assigned => ?_
  obtain ⟨alternative, among, named, rfl, rfl⟩ := assigned
  obtain rfl : alternative = ⟨"mean", .shaped 3 (.integer ⟨0, 9⟩)⟩ := by
    rcases List.mem_pair.mp among with rfl | rfl
    · simp at named
    · rfl
  exact .of_bare rfl ⟨by decide, by decide⟩

/-- The line of the level stays unread, and the round trip of the tally takes it
for its own. -/
theorem gauges_disturbed :
    ¬ ∀ module compiled, ofModule module = .ok compiled → ∀ pairs,
      compiled.shared pairs JsonLines.empty = pairs.map compiled.alone := by
  intro claimed
  obtain ⟨compiled, built⟩ : ∃ compiled, ofModule gauges = .ok compiled := ⟨_, rfl⟩
  have same := claimed gauges compiled built [(level.name, meanLevel), (tally.name, .integer 7)]
  obtain ⟨levelPlan, first⟩ := serves_declared built level List.mem_cons_self
  obtain ⟨tallyPlan, second⟩ := serves_declared built tally (by simp [gauges])
  have wellFormed := wellFormed_of_built built
  obtain ⟨_, owned, _⟩ := ofModule_ok built
  have validLevel := (first.accepts meanLevel).mpr (owned ▸ meanLevel_conforms)
  have validTally := (second.accepts (.integer 7)).mpr (owned ▸ tally_conforms)
  have document : meanLevel.toJson compiled.module level.type =
      .ok (.object [("mean", .ofInt64 5)]) := by
    rw [owned]
    rfl
  have number : (Value.integer 7).toJson compiled.module tally.type = .ok (.ofInt64 7) := by
    rw [owned]
    rfl
  have seed : compiled.module.defaultInstance tally.type = .ok (.integer 0) := by
    rw [owned]
    rfl
  have seedless : compiled.module.defaultInstance level.type =
      .error (.malformed (.oversized 0x1000001)) := by
    rw [owned]
    rfl
  have stays : compiled.roundTrip codec level.name meanLevel JsonLines.empty = (_, _) :=
    first.roundTrip_seedless validLevel document seedless
  have queue :=
    (holds_empty.append (Value.toJson_settled document)).append (Value.toJson_settled number)
  obtain ⟨after, taken, _⟩ := queue.decode_cons compiled.module tally.type (by decide)
  have disturbed := roundTrip_decode (second.encode_written validTally number)
    (second.decode_unread seed taken)
  obtain ⟨_, undisturbed, _⟩ :=
    second.roundTrip_back validTally number seed holds_empty wellFormed (by decide)
  simp [shared, alone, stays, disturbed, undisturbed, decodeFailure] at same

/-- A value that is refused, a name that is not declared and a value that comes
back leave the level nothing to meet. -/
theorem gauges_undisturbed :
    ∃ compiled, ofModule gauges = .ok compiled ∧
      (∀ pair ∈ [(tally.name, Value.integer 10), ("Range", .null), (tally.name, .integer 7)],
        compiled.LeavesNothing pair) ∧
      compiled.shared [(tally.name, .integer 10), ("Range", .null), (tally.name, .integer 7),
          (level.name, meanLevel)] JsonLines.empty =
        [(tally.name, .integer 10), ("Range", .null), (tally.name, .integer 7),
          (level.name, meanLevel)].map compiled.alone := by
  obtain ⟨compiled, built, clean⟩ : ∃ compiled, ofModule gauges = .ok compiled ∧
      ∀ pair ∈ [(tally.name, Value.integer 10), ("Range", .null), (tally.name, .integer 7)],
        compiled.LeavesNothing pair := by
    refine ⟨_, rfl, ?_⟩
    simp only [List.forall_mem_cons]
    refine ⟨?_, ?_, ?_, nofun⟩
    · intro plan node json planned valid
      cases planned
      cases valid
    · intro plan node json planned
      cases planned
    · intro plan node json _ _ located written
      cases located
      cases written
      exact ⟨by decide, _, rfl⟩
  exact ⟨compiled, built, clean, shared_undisturbed built _ clean⟩

end CompiledModule

end Asn1Constraints
