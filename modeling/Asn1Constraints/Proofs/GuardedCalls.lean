import Asn1Constraints.Proofs.BoundaryCalls
import Mathlib

/-!
What a codec is asked at the boundary, whatever it does. A codec that keeps a
record of its calls shows which values reach it: those that validate on the way
out, and default instances as seeds on the way in. What comes back from it is
validated before it is returned, and a round trip stops at the first stage that
fails.
-/

namespace Asn1Constraints

inductive CodecCall where
  | encode (module : TypeModule) (node : TypeNode) (value : Value)
  | decode (module : TypeModule) (node : TypeNode) (seed : Value)

/-- The codec with a record of its calls, the latest last. -/
def Codec.recording {σ ε : Type} (codec : Codec σ ε) : Codec (σ × List CodecCall) ε where
  encode module node value := ExceptT.mk fun recorded =>
    let (result, after) := codec.encode module node value recorded.1
    (result, after, recorded.2 ++ [.encode module node value])
  decode module node seed := ExceptT.mk fun recorded =>
    let (result, after) := codec.decode module node seed recorded.1
    (result, after, recorded.2 ++ [.decode module node seed])

/-- A call at the boundary. -/
inductive BoundaryOp where
  | encode (typeName : String) (value : Value)
  | decode (typeName : String)
  | roundTrip (typeName : String) (value : Value)

inductive BoundaryReply (ε : Type) where
  | encoded (result : Except (BoundaryError ε) Unit)
  | decoded (result : Except (BoundaryError ε) Value)
  | roundTripped (result : Except (RoundTripError ε) Value)

namespace BoundaryOp

def typeName : BoundaryOp → String
  | .encode typeName _ => typeName
  | .decode typeName => typeName
  | .roundTrip typeName _ => typeName

/-- The value that is to be encoded. -/
def value? : BoundaryOp → Option Value
  | .encode _ value => some value
  | .decode _ => none
  | .roundTrip _ value => some value

def perform {σ ε : Type} (compiled : CompiledModule) (codec : Codec σ ε) :
    BoundaryOp → σ → BoundaryReply ε × σ
  | .encode typeName value, state =>
    Prod.map .encoded id (compiled.encode codec typeName value state)
  | .decode typeName, state => Prod.map .decoded id (compiled.decode codec typeName state)
  | .roundTrip typeName value, state =>
    Prod.map .roundTripped id (compiled.roundTrip codec typeName value state)

end BoundaryOp

/-- The value that is returned. -/
def BoundaryReply.value? {ε : Type} : BoundaryReply ε → Option Value
  | .encoded _ => none
  | .decoded result => result.toOption
  | .roundTripped result => result.toOption

namespace CompiledModule

variable {σ ε : Type}

/-! Calls and what the codec is asked in them. -/

inductive EncodeRun (compiled : CompiledModule) (codec : Codec σ ε) (typeName : String)
    (value : Value) (before : σ) : Except (BoundaryError ε) Unit → σ → List CodecCall → Prop where
  | unknown {error} :
      compiled.requirePlan typeName = .error error →
      EncodeRun compiled codec typeName value before (.error (.model error)) before []
  | rejected {plan node violation} :
      compiled.Serves typeName plan node → plan.validate value = .error violation →
      EncodeRun compiled codec typeName value before (.error (.rejected violation)) before []
  | called {plan node result after} :
      compiled.Serves typeName plan node → plan.validate value = .ok () →
      codec.encode compiled.module node value before = (result, after) →
      EncodeRun compiled codec typeName value before (result.mapError .codec) after
        [.encode compiled.module node value]

inductive DecodeRun (compiled : CompiledModule) (codec : Codec σ ε) (typeName : String)
    (before : σ) : Except (BoundaryError ε) Value → σ → List CodecCall → Prop where
  | unknown {error} :
      compiled.requirePlan typeName = .error error →
      DecodeRun compiled codec typeName before (.error (.model error)) before []
  | seedless {plan node error} :
      compiled.Serves typeName plan node → compiled.module.defaultInstance node = .error error →
      DecodeRun compiled codec typeName before (.error (.model error)) before []
  | unread {plan node seed cause after} :
      compiled.Serves typeName plan node → compiled.module.defaultInstance node = .ok seed →
      codec.decode compiled.module node seed before = (.error cause, after) →
      DecodeRun compiled codec typeName before (.error (.codec cause)) after
        [.decode compiled.module node seed]
  | rejected {plan node seed decoded after violation} :
      compiled.Serves typeName plan node → compiled.module.defaultInstance node = .ok seed →
      codec.decode compiled.module node seed before = (.ok decoded, after) →
      plan.validate decoded = .error violation →
      DecodeRun compiled codec typeName before (.error (.rejected violation)) after
        [.decode compiled.module node seed]
  | valid {plan node seed decoded after} :
      compiled.Serves typeName plan node → compiled.module.defaultInstance node = .ok seed →
      codec.decode compiled.module node seed before = (.ok decoded, after) →
      plan.validate decoded = .ok () →
      DecodeRun compiled codec typeName before (.ok decoded) after
        [.decode compiled.module node seed]

/-- The stages of a round trip in order; each is reached only where those before
it have succeeded. -/
inductive RoundTripRun (compiled : CompiledModule) (codec : Codec σ ε) (typeName : String)
    (value : Value) (before : σ) : Except (RoundTripError ε) Value → σ → List CodecCall → Prop where
  | encode {cause after calls} :
      EncodeRun compiled codec typeName value before (.error cause) after calls →
      RoundTripRun compiled codec typeName value before (.error (.encode cause)) after calls
  | decode {middle calls cause after further} :
      EncodeRun compiled codec typeName value before (.ok ()) middle calls →
      DecodeRun compiled codec typeName middle (.error cause) after further →
      (∀ violation, cause ≠ .rejected violation) →
      RoundTripRun compiled codec typeName value before (.error (.decode cause)) after
        (calls ++ further)
  | constraint {middle calls violation after further} :
      EncodeRun compiled codec typeName value before (.ok ()) middle calls →
      DecodeRun compiled codec typeName middle (.error (.rejected violation)) after further →
      RoundTripRun compiled codec typeName value before (.error (.constraint violation)) after
        (calls ++ further)
  | mismatch {middle calls decoded after further node expected normal} :
      EncodeRun compiled codec typeName value before (.ok ()) middle calls →
      DecodeRun compiled codec typeName middle (.ok decoded) after further →
      compiled.typeNode typeName = .ok node →
      value.normalized compiled.module node = .ok expected →
      decoded.normalized compiled.module node = .ok normal → normal.same expected = false →
      RoundTripRun compiled codec typeName value before (.error (.mismatch expected decoded)) after
        (calls ++ further)
  | same {middle calls decoded after further node expected normal} :
      EncodeRun compiled codec typeName value before (.ok ()) middle calls →
      DecodeRun compiled codec typeName middle (.ok decoded) after further →
      compiled.typeNode typeName = .ok node →
      value.normalized compiled.module node = .ok expected →
      decoded.normalized compiled.module node = .ok normal → normal.same expected = true →
      RoundTripRun compiled codec typeName value before (.ok decoded) after (calls ++ further)

section

variable {module : TypeModule} {compiled : CompiledModule} (built : ofModule module = .ok compiled)
  (codec : Codec σ ε) (typeName : String) (value : Value) (before : σ) (log : List CodecCall)

include built

theorem encode_runs : ∃ result after calls,
    compiled.encode codec typeName value before = (result, after) ∧
      compiled.encode codec.recording typeName value (before, log) = (result, after, log ++ calls) ∧
        EncodeRun compiled codec typeName value before result after calls := by
  rcases serves_or_unknown built typeName with ⟨plan, node, serves⟩ | unknown
  · cases checked : plan.validate value with
    | error violation =>
        exact ⟨_, before, [], serves.encode_rejected checked,
          (serves.encode_rejected checked).trans (by simp), .rejected serves checked⟩
    | ok _ =>
        exact ⟨_, _, _, serves.encode_valid checked rfl, serves.encode_valid checked rfl,
          .called serves checked rfl⟩
  · exact ⟨_, before, [], encode_unknown unknown, (encode_unknown unknown).trans (by simp),
      .unknown unknown⟩

theorem decode_runs : ∃ result after calls,
    compiled.decode codec typeName before = (result, after) ∧
      compiled.decode codec.recording typeName (before, log) = (result, after, log ++ calls) ∧
        DecodeRun compiled codec typeName before result after calls := by
  rcases serves_or_unknown built typeName with ⟨plan, node, serves⟩ | unknown
  · cases seeded : compiled.module.defaultInstance node with
    | error error =>
        exact ⟨_, before, [], serves.decode_seedless seeded,
          (serves.decode_seedless seeded).trans (by simp), .seedless serves seeded⟩
    | ok seed =>
        obtain ⟨outcome, after, called⟩ : ∃ outcome after,
            codec.decode compiled.module node seed before = (outcome, after) := ⟨_, _, rfl⟩
        -- The recording codec answers as the codec does.
        have recorded : codec.recording.decode compiled.module node seed (before, log) =
            (outcome, after, log ++ [.decode compiled.module node seed]) := by
          change ((codec.decode compiled.module node seed before).1,
            (codec.decode compiled.module node seed before).2, _) = _
          rw [called]
        cases outcome with
        | error cause =>
            exact ⟨_, after, _, serves.decode_unread seeded called,
              serves.decode_unread seeded recorded, .unread serves seeded called⟩
        | ok decoded =>
            cases checked : plan.validate decoded with
            | error violation =>
                exact ⟨_, after, _, serves.decode_rejected seeded called checked,
                  serves.decode_rejected seeded recorded checked,
                  .rejected serves seeded called checked⟩
            | ok _ =>
                exact ⟨_, after, _, serves.decode_valid seeded called checked,
                  serves.decode_valid seeded recorded checked, .valid serves seeded called checked⟩
  · exact ⟨_, before, [], decode_unknown unknown, (decode_unknown unknown).trans (by simp),
      .unknown unknown⟩

theorem roundTrip_runs : ∃ result after calls,
    compiled.roundTrip codec typeName value before = (result, after) ∧
      compiled.roundTrip codec.recording typeName value (before, log) =
          (result, after, log ++ calls) ∧
        RoundTripRun compiled codec typeName value before result after calls := by
  obtain ⟨encoded, middle, calls, first, recorded, encodes⟩ :=
    encode_runs built codec typeName value before log
  cases encoded with
  | error cause =>
      exact ⟨_, middle, calls, roundTrip_encode first, roundTrip_encode recorded, .encode encodes⟩
  | ok _ =>
      obtain ⟨read, after, further, second, recordedToo, decodes⟩ :=
        decode_runs built codec typeName middle (log ++ calls)
      rw [List.append_assoc] at recordedToo
      cases read with
      | error cause =>
          refine ⟨_, after, calls ++ further, roundTrip_decode first second,
            roundTrip_decode recorded recordedToo, ?_⟩
          cases cause with
          | rejected violation => exact .constraint encodes decodes
          | model error => exact .decode encodes decodes fun _ same => by cases same
          | codec error => exact .decode encodes decodes fun _ same => by cases same
      | ok decoded =>
          refine ⟨_, after, calls ++ further, roundTrip_compare first second,
            roundTrip_compare recorded recordedToo, ?_⟩
          -- Comparing takes no call: in a well-formed module both values have normal forms.
          have wellFormed := wellFormed_of_built built
          obtain ⟨plan, node, serves⟩ : ∃ plan node, compiled.Serves typeName plan node := by
            cases decodes
            exact ⟨_, _, ‹_›⟩
          have form := wellFormed.normalized_eq_normal node serves.sound
          rw [serves.compareDecoded_eq wellFormed]
          split <;> rename_i same
          · exact .same encodes decodes serves.located (form value) (form decoded) same
          · exact .mismatch encodes decodes serves.located (form value) (form decoded)
              (Bool.eq_false_iff.mpr same)

end

/-! What the runs have in common. -/

/-- Each call of the codec is one the plan of the type allows. -/
def Allowed (compiled : CompiledModule) (typeName : String) : CodecCall → Prop
  | .encode module node value => module = compiled.module ∧ ∃ plan,
      compiled.requirePlan typeName = .ok plan ∧ compiled.typeNode typeName = .ok node ∧
        plan.validate value = .ok ()
  | .decode module node seed => module = compiled.module ∧
      compiled.typeNode typeName = .ok node ∧ compiled.module.defaultInstance node = .ok seed

section

variable {compiled : CompiledModule} {codec : Codec σ ε} {typeName : String} {value : Value}
  {before after : σ} {calls : List CodecCall}

theorem EncodeRun.allowed {result : Except (BoundaryError ε) Unit}
    (run : EncodeRun compiled codec typeName value before result after calls) :
    ∀ call ∈ calls, compiled.Allowed typeName call := by
  cases run with
  | unknown unknown => exact nofun
  | rejected serves refused => exact nofun
  | called serves valid called =>
      simp only [List.mem_singleton, forall_eq]
      exact ⟨rfl, _, serves.planned, serves.located, valid⟩

theorem DecodeRun.allowed {result : Except (BoundaryError ε) Value}
    (run : DecodeRun compiled codec typeName before result after calls) :
    ∀ call ∈ calls, compiled.Allowed typeName call := by
  cases run with
  | unknown unknown => exact nofun
  | seedless serves none => exact nofun
  | unread serves seeded _ | rejected serves seeded _ _ | valid serves seeded _ _ =>
      simp only [List.mem_singleton, forall_eq]
      exact ⟨rfl, serves.located, seeded⟩

theorem RoundTripRun.allowed {result : Except (RoundTripError ε) Value}
    (run : RoundTripRun compiled codec typeName value before result after calls) :
    ∀ call ∈ calls, compiled.Allowed typeName call := by
  cases run with
  | encode encodes => exact encodes.allowed
  | decode encodes decodes _ | constraint encodes decodes | mismatch encodes decodes _ _ _ _
  | same encodes decodes _ _ _ _ =>
      exact List.forall_mem_append.mpr ⟨encodes.allowed, decodes.allowed⟩

/-- Without a plan that accepts the value the codec is left alone. -/
theorem EncodeRun.untouched {result : Except (BoundaryError ε) Unit}
    (run : EncodeRun compiled codec typeName value before result after calls)
    (refused : ∀ plan, compiled.requirePlan typeName = .ok plan → plan.validate value ≠ .ok ()) :
    after = before ∧ calls = [] ∧ result ≠ .ok () := by
  cases run with
  | unknown unknown => exact ⟨rfl, rfl, nofun⟩
  | rejected serves _ => exact ⟨rfl, rfl, nofun⟩
  | called serves valid _ => exact absurd valid (refused _ serves.planned)

theorem RoundTripRun.untouched {result : Except (RoundTripError ε) Value}
    (run : RoundTripRun compiled codec typeName value before result after calls)
    (refused : ∀ plan, compiled.requirePlan typeName = .ok plan → plan.validate value ≠ .ok ()) :
    after = before ∧ calls = [] := by
  cases run with
  | encode encodes => exact ⟨(encodes.untouched refused).1, (encodes.untouched refused).2.1⟩
  | decode encodes _ _ | constraint encodes _ | mismatch encodes _ _ _ _ _
  | same encodes _ _ _ _ _ => exact absurd rfl (encodes.untouched refused).2.2

theorem DecodeRun.untouched {result : Except (BoundaryError ε) Value}
    (run : DecodeRun compiled codec typeName before result after calls) {error : Error}
    (unknown : compiled.requirePlan typeName = .error error) : after = before ∧ calls = [] := by
  cases run with
  | unknown _ => exact ⟨rfl, rfl⟩
  | seedless serves _ | unread serves _ _ | rejected serves _ _ _ | valid serves _ _ _ =>
      rw [serves.planned] at unknown
      cases unknown

/-- What is encoded validates. -/
theorem EncodeRun.valid
    (run : EncodeRun compiled codec typeName value before (.ok ()) after calls) :
    ∃ plan, compiled.requirePlan typeName = .ok plan ∧ plan.validate value = .ok () := by
  by_contra none
  refine (run.untouched fun plan planned valid => ?_).2.2 rfl
  exact none ⟨plan, planned, valid⟩

/-- What is decoded validates. -/
theorem DecodeRun.returned {decoded : Value}
    (run : DecodeRun compiled codec typeName before (.ok decoded) after calls) :
    ∃ plan, compiled.requirePlan typeName = .ok plan ∧ plan.validate decoded = .ok () := by
  cases run with
  | valid serves _ _ valid => exact ⟨_, serves.planned, valid⟩

/-- A round trip that succeeds returns a value that agrees with the given one. -/
theorem RoundTripRun.agreeing {decoded : Value}
    (run : RoundTripRun compiled codec typeName value before (.ok decoded) after calls) :
    ∃ plan node expected normal, compiled.requirePlan typeName = .ok plan ∧
      plan.validate value = .ok () ∧ plan.validate decoded = .ok () ∧
        compiled.typeNode typeName = .ok node ∧
          value.normalized compiled.module node = .ok expected ∧
            decoded.normalized compiled.module node = .ok normal ∧ normal.same expected = true := by
  cases run with
  | same encodes decodes located form formed same =>
      obtain ⟨plan, planned, valid⟩ := encodes.valid
      obtain ⟨other, plannedToo, validToo⟩ := decodes.returned
      obtain rfl := Except.ok.inj (planned.symm.trans plannedToo)
      exact ⟨plan, _, _, _, planned, valid, validToo, located, form, formed, same⟩

end

/-! Any number of calls. -/

/-- A call at the boundary that was made, with what the codec was asked in it. -/
structure Performed (σ ε : Type) where
  op : BoundaryOp
  before : σ
  reply : BoundaryReply ε
  after : σ
  calls : List CodecCall

def performed (compiled : CompiledModule) (codec : Codec σ ε) (op : BoundaryOp) (state : σ) :
    Performed σ ε :=
  let (reply, after, calls) := op.perform compiled codec.recording (state, [])
  ⟨op, state, reply, after, calls⟩

/-- The calls one after the other, each from the state the last one left. -/
def history (compiled : CompiledModule) (codec : Codec σ ε) :
    List BoundaryOp → σ → List (Performed σ ε)
  | [], _ => []
  | op :: rest, state =>
    let done := performed compiled codec op state
    done :: history compiled codec rest done.after

structure Guarded (compiled : CompiledModule) (codec : Codec σ ε) (done : Performed σ ε) :
    Prop where
  /-- Keeping the record changes nothing. -/
  faithful : done.op.perform compiled codec done.before = (done.reply, done.after)
  allowed : ∀ call ∈ done.calls, compiled.Allowed done.op.typeName call
  unknown : ∀ error, compiled.requirePlan done.op.typeName = .error error →
    done.after = done.before ∧ done.calls = []
  rejected : ∀ plan value violation, compiled.requirePlan done.op.typeName = .ok plan →
    done.op.value? = some value → plan.validate value = .error violation →
      done.after = done.before ∧ done.calls = []
  returned : ∀ value, done.reply.value? = some value →
    ∃ plan, compiled.requirePlan done.op.typeName = .ok plan ∧ plan.validate value = .ok ()
  staged : ∀ typeName value result, done.op = .roundTrip typeName value →
    done.reply = .roundTripped result →
      RoundTripRun compiled codec typeName value done.before result done.after done.calls
  agreeing : ∀ typeName value decoded, done.op = .roundTrip typeName value →
    done.reply = .roundTripped (.ok decoded) →
      ∃ plan node expected normal, compiled.requirePlan typeName = .ok plan ∧
        plan.validate value = .ok () ∧ plan.validate decoded = .ok () ∧
          compiled.typeNode typeName = .ok node ∧
            value.normalized compiled.module node = .ok expected ∧
              decoded.normalized compiled.module node = .ok normal ∧ normal.same expected = true

section

variable {module : TypeModule} {compiled : CompiledModule} (built : ofModule module = .ok compiled)
  (codec : Codec σ ε)

include built

theorem encode_guarded (typeName : String) (value : Value) (state : σ) :
    Guarded compiled codec (performed compiled codec (.encode typeName value) state) := by
  obtain ⟨result, after, calls, plain, recorded, run⟩ :=
    encode_runs built codec typeName value state []
  have done : performed compiled codec (.encode typeName value) state =
      ⟨.encode typeName value, state, .encoded result, after, calls⟩ := by
    rw [performed, BoundaryOp.perform, recorded]
    rfl
  -- With the record of the call in hand, each of the guards is a fact about this one run.
  rw [done]
  constructor
  case faithful => exact congrArg (Prod.map BoundaryReply.encoded id) plain
  case allowed => exact run.allowed
  case unknown =>
    intro error unknown
    obtain ⟨same, none, _⟩ := run.untouched fun _ planned => nomatch unknown.symm.trans planned
    exact ⟨same, none⟩
  case rejected =>
    rintro plan _ violation planned ⟨⟩ refused
    obtain ⟨same, none, _⟩ := run.untouched fun other plannedToo => by
      obtain rfl := Except.ok.inj (planned.symm.trans plannedToo)
      simp [refused]
    exact ⟨same, none⟩
  case returned => rintro _ ⟨⟩
  case staged => rintro _ _ _ ⟨⟩
  case agreeing => rintro _ _ _ ⟨⟩

theorem decode_guarded (typeName : String) (state : σ) :
    Guarded compiled codec (performed compiled codec (.decode typeName) state) := by
  obtain ⟨result, after, calls, plain, recorded, run⟩ := decode_runs built codec typeName state []
  have done : performed compiled codec (.decode typeName) state =
      ⟨.decode typeName, state, .decoded result, after, calls⟩ := by
    rw [performed, BoundaryOp.perform, recorded]
    rfl
  rw [done]
  constructor
  case faithful => exact congrArg (Prod.map BoundaryReply.decoded id) plain
  case allowed => exact run.allowed
  case unknown => exact fun error unknown => run.untouched unknown
  case rejected => rintro _ _ _ _ ⟨⟩
  case returned =>
    intro value returned
    cases result with
    | error cause => cases returned
    | ok decoded =>
        obtain rfl := Option.some.inj returned
        exact run.returned
  case staged => rintro _ _ _ ⟨⟩
  case agreeing => rintro _ _ _ ⟨⟩

theorem roundTrip_guarded (typeName : String) (value : Value) (state : σ) :
    Guarded compiled codec (performed compiled codec (.roundTrip typeName value) state) := by
  obtain ⟨result, after, calls, plain, recorded, run⟩ :=
    roundTrip_runs built codec typeName value state []
  have done : performed compiled codec (.roundTrip typeName value) state =
      ⟨.roundTrip typeName value, state, .roundTripped result, after, calls⟩ := by
    rw [performed, BoundaryOp.perform, recorded]
    rfl
  rw [done]
  constructor
  case faithful => exact congrArg (Prod.map BoundaryReply.roundTripped id) plain
  case allowed => exact run.allowed
  case unknown =>
    intro error unknown
    exact run.untouched fun _ planned => nomatch unknown.symm.trans planned
  case rejected =>
    rintro plan _ violation planned ⟨⟩ refused
    refine run.untouched fun other plannedToo => ?_
    obtain rfl := Except.ok.inj (planned.symm.trans plannedToo)
    simp [refused]
  case returned =>
    intro decoded returned
    cases result with
    | error cause => cases returned
    | ok other =>
        obtain rfl := Option.some.inj returned
        obtain ⟨plan, _, _, _, planned, _, valid, _⟩ := run.agreeing
        exact ⟨plan, planned, valid⟩
  case staged =>
    rintro _ _ _ ⟨⟩ ⟨⟩
    exact run
  case agreeing =>
    rintro _ _ decoded ⟨⟩ ⟨⟩
    exact run.agreeing

/-- However the codec behaves and whatever is asked, each call at the boundary
hands it only what the plan of the type allows and returns only what validates. -/
theorem history_guarded (ops : List BoundaryOp) (state : σ) :
    ∀ done ∈ history compiled codec ops state, Guarded compiled codec done := by
  induction ops generalizing state with
  | nil => exact fun _ member => absurd member List.not_mem_nil
  | cons op rest ih =>
      have first : Guarded compiled codec (performed compiled codec op state) := by
        cases op with
        | encode typeName value => exact encode_guarded built codec typeName value state
        | decode typeName => exact decode_guarded built codec typeName state
        | roundTrip typeName value => exact roundTrip_guarded built codec typeName value state
      exact List.forall_mem_cons.mpr ⟨first, ih _⟩

end

def mark : TypeAssignment := ⟨"Mark", .shaped 1 (.integer ⟨0, 9⟩)⟩

def marks : TypeModule := ⟨modelVersion, "Marks", [mark]⟩

/-- A codec that forgets what is encoded and decodes a count of its calls. -/
def counting : Codec Nat String where
  encode _ _ _ := ExceptT.mk fun count => (.ok (), count + 1)
  decode _ _ _ := ExceptT.mk fun count => (.ok (.integer (Int64.ofNat count)), count + 1)

/-- A mark out of range, a mark that comes back as another, and no type at all. -/
def requests : List BoundaryOp :=
  [.encode "Mark" (.integer 10), .roundTrip "Mark" (.integer 1), .decode "Score"]

theorem counting_guarded :
    ∃ compiled, ofModule marks = .ok compiled ∧
      (∀ done ∈ history compiled counting requests 0, Guarded compiled counting done) ∧
        (history compiled counting requests 0).map
            (fun done => (done.before, done.after, done.calls.length)) =
          [(0, 0, 0), (0, 2, 2), (2, 2, 0)] := by
  have built : ofModule marks = .ok _ := rfl
  refine ⟨_, built, history_guarded built counting requests 0, ?_⟩
  decide +kernel

end CompiledModule

end Asn1Constraints
