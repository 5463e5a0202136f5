import Asn1Constraints.Codec.Boundary
import Asn1Constraints.Proofs.NormalForms
import Mathlib

/-!
Calls at the boundary of a compiled module. A name is either that of a declared
type, with a plan that accepts what conforms to the type, or it is unknown and
every call stops there. What a call does from then on is said by one equation
for each of its steps.
-/

namespace Asn1Constraints

namespace CompiledModule

/-! Plans of compiled modules. -/

theorem ofModule_ok {module : TypeModule} {compiled : CompiledModule}
    (built : ofModule module = .ok compiled) :
    module.validate = .ok () ∧ compiled.module = module ∧
      compilePlans module module.types = .ok compiled.plans := by
  obtain ⟨_, accepted, rest⟩ := bind_ok_iff.mp built
  obtain ⟨plans, listed, result⟩ := bind_ok_iff.mp rest
  obtain rfl := Except.ok.inj result
  exact ⟨accepted, rfl, listed⟩

/-- The entry of a type among the plans. -/
def planEntry (module : TypeModule) (assignment : TypeAssignment) :
    Except Error (String × ValidationPlan) :=
  (module.compileUnchecked assignment.name).map fun plan => (assignment.name, plan)

theorem compilePlans_eq_mapM (module : TypeModule) (types : List TypeAssignment) :
    compilePlans module types = types.mapM (planEntry module) := by
  induction types with
  | nil => rfl
  | cons assignment rest ih =>
      rw [compilePlans, ih, List.mapM_cons, planEntry]
      cases module.compileUnchecked assignment.name <;> rfl

theorem compilePlans_paired {module : TypeModule} {types : List TypeAssignment}
    {plans : List (String × ValidationPlan)} (listed : compilePlans module types = .ok plans) :
    List.Forall₂ (fun assignment entry => entry.1 = assignment.name ∧
      module.compileUnchecked assignment.name = .ok entry.2) types plans := by
  rw [compilePlans_eq_mapM] at listed
  refine (mapM_ok_forall₂ listed).imp fun assignment entry made => ?_
  obtain ⟨plan, unchecked, rfl⟩ := map_ok_iff.mp made
  exact ⟨rfl, unchecked⟩

theorem compilePlans_names {module : TypeModule} {types : List TypeAssignment}
    {plans : List (String × ValidationPlan)} (listed : compilePlans module types = .ok plans) :
    plans.map (·.1) = types.map (·.name) := by
  rw [← List.forall₂_eq_eq_eq, List.forall₂_map_left_iff, List.forall₂_map_right_iff]
  exact (compilePlans_paired listed).flip.imp fun _ _ made => made.1

/-- What a name stands for in a compiled module: a plan and the node it is for. -/
structure Serves (compiled : CompiledModule) (typeName : String) (plan : ValidationPlan)
    (node : TypeNode) : Prop where
  planned : compiled.requirePlan typeName = .ok plan
  located : compiled.typeNode typeName = .ok node
  sound : node.AllSound compiled.module
  accepts : ∀ value, plan.validate value = .ok () ↔ Conforms compiled.module node value

section

variable {module : TypeModule} {compiled : CompiledModule}
  (built : ofModule module = .ok compiled)

include built

theorem wellFormed_of_built : compiled.module.WellFormed := by
  obtain ⟨accepted, rfl, _⟩ := ofModule_ok built
  exact TypeModule.wellFormed_of_validate accepted

theorem serves_declared (assignment : TypeAssignment) (declared : assignment ∈ module.types) :
    ∃ plan, compiled.Serves assignment.name plan assignment.type := by
  have wellFormed := wellFormed_of_built built
  obtain ⟨accepted, rfl, listed⟩ := ofModule_ok built
  obtain ⟨⟨_, plan⟩, member, rfl, unchecked⟩ :=
    exists_of_forall₂ (compilePlans_paired listed).flip declared
  have unique : (compiled.plans.map (·.1)).Nodup := by
    rw [compilePlans_names listed]
    exact wellFormed.distinctNames
  have looked := lookup_of_mem unique member
  obtain ⟨other, compiledTo, accepts⟩ := wellFormed.accepting_plan accepted assignment declared
  obtain rfl : plan = other := by
    rw [TypeModule.compile, accepted] at compiledTo
    exact Except.ok.inj (unchecked.symm.trans compiledTo)
  refine ⟨plan, ?_, ?_, wellFormed.allSound assignment declared, accepts⟩
  · rw [requirePlan, plan?, looked]
  · rw [typeNode, TypeModule.require, TypeModule.find?_of_mem wellFormed.distinctNames declared]
    rfl

/-- There is no name with a plan and no node, or with a node and no plan. -/
theorem serves_or_unknown (typeName : String) :
    (∃ plan node, compiled.Serves typeName plan node) ∨
      compiled.requirePlan typeName = .error (.unknownType module.name typeName) := by
  -- The plans are listed under the declared names, and under no other.
  by_cases declared : ∃ assignment ∈ module.types, assignment.name = typeName
  · obtain ⟨assignment, member, rfl⟩ := declared
    obtain ⟨plan, serves⟩ := serves_declared built assignment member
    exact .inl ⟨plan, assignment.type, serves⟩
  · obtain ⟨_, rfl, listed⟩ := ofModule_ok built
    have absent : compiled.plans.lookup typeName = none := by
      rw [lookup_eq_none_iff_absent, compilePlans_names listed]
      simpa using declared
    exact .inr (by rw [requirePlan, plan?, absent])

end

/-! Steps. -/

section

variable {σ ε α β : Type} {state : σ} {next : α → BoundaryCall σ ε β}

theorem modelStep_error (error : Error) :
    (modelStep (.error error) >>= next) state = (.error (.model error), state) := rfl

theorem modelStep_ok (result : α) :
    (modelStep (.ok result) >>= next) state = next result state := rfl

theorem validStep_error {plan : ValidationPlan} {value : Value} {violation : Violation}
    {next : Unit → BoundaryCall σ ε β} (refused : plan.validate value = .error violation) :
    (validStep plan value >>= next) state = (.error (.rejected violation), state) := by
  rw [validStep, refused]
  rfl

theorem validStep_ok {plan : ValidationPlan} {value : Value} {next : Unit → BoundaryCall σ ε β}
    (valid : plan.validate value = .ok ()) :
    (validStep plan value >>= next) state = next () state := by
  rw [validStep, valid]
  rfl

theorem codecStep_eq (call : ExceptT ε (StateM σ) α) :
    (codecStep call : BoundaryCall σ ε α) state =
      ((call state).1.mapError .codec, (call state).2) := rfl

theorem codecStep_error {call : ExceptT ε (StateM σ) α} {cause : ε} {after : σ}
    (failed : call state = (.error cause, after)) :
    (codecStep call >>= next) state = (.error (.codec cause), after) := by
  change ExceptT.bindCont next ((call state).1.mapError .codec) (call state).2 = _
  rw [failed]
  rfl

theorem codecStep_ok {call : ExceptT ε (StateM σ) α} {result : α} {after : σ}
    (done : call state = (.ok result, after)) :
    (codecStep call >>= next) state = next result after := by
  change ExceptT.bindCont next ((call state).1.mapError .codec) (call state).2 = _
  rw [done]
  rfl

end

/-! Calls. -/

section

variable {σ ε : Type} {compiled : CompiledModule} {codec : Codec σ ε} {typeName : String}
  {plan : ValidationPlan} {node : TypeNode} {value : Value} {state middle after : σ}

theorem encode_unknown {error : Error} (unknown : compiled.requirePlan typeName = .error error) :
    compiled.encode codec typeName value state = (.error (.model error), state) := by
  rw [encode, unknown, modelStep_error]

theorem decode_unknown {error : Error} (unknown : compiled.requirePlan typeName = .error error) :
    compiled.decode codec typeName state = (.error (.model error), state) := by
  rw [decode, unknown, modelStep_error]

/-- State computations one after the other. -/
theorem bind_run {α β : Type} (call : StateM σ α) (next : α → StateM σ β) :
    (call >>= next) state = next (call state).1 (call state).2 := rfl

theorem roundTrip_encode {cause : BoundaryError ε}
    (failed : compiled.encode codec typeName value state = (.error cause, after)) :
    compiled.roundTrip codec typeName value state = (.error (.encode cause), after) := by
  have run : (compiled.encode codec typeName value).run state = (.error cause, after) := failed
  rw [roundTrip, ExceptT.mk, bind_run, run]
  rfl

theorem roundTrip_decode {cause : BoundaryError ε}
    (done : compiled.encode codec typeName value state = (.ok (), middle))
    (failed : compiled.decode codec typeName middle = (.error cause, after)) :
    compiled.roundTrip codec typeName value state = (.error (decodeFailure cause), after) := by
  have run : (compiled.encode codec typeName value).run state = (.ok (), middle) := done
  have next : (compiled.decode codec typeName).run middle = (.error cause, after) := failed
  rw [roundTrip, ExceptT.mk, bind_run, run]
  simp only
  rw [bind_run, next]
  rfl

theorem roundTrip_compare {decoded : Value}
    (done : compiled.encode codec typeName value state = (.ok (), middle))
    (read : compiled.decode codec typeName middle = (.ok decoded, after)) :
    compiled.roundTrip codec typeName value state =
      (compiled.compareDecoded typeName value decoded, after) := by
  have run : (compiled.encode codec typeName value).run state = (.ok (), middle) := done
  have next : (compiled.decode codec typeName).run middle = (.ok decoded, after) := read
  rw [roundTrip, ExceptT.mk, bind_run, run]
  simp only
  rw [bind_run, next]
  rfl

namespace Serves

variable (serves : compiled.Serves typeName plan node)

include serves

theorem encode_rejected {violation : Violation} (refused : plan.validate value = .error violation) :
    compiled.encode codec typeName value state = (.error (.rejected violation), state) := by
  rw [encode, serves.planned, modelStep_ok, validStep_error refused]

theorem encode_valid (valid : plan.validate value = .ok ()) {result : Except ε Unit}
    (called : codec.encode compiled.module node value state = (result, after)) :
    compiled.encode codec typeName value state = (result.mapError .codec, after) := by
  rw [encode, serves.planned, modelStep_ok, validStep_ok valid, serves.located, modelStep_ok,
    codecStep_eq, called]

theorem decode_seedless {error : Error}
    (none : compiled.module.defaultInstance node = .error error) :
    compiled.decode codec typeName state = (.error (.model error), state) := by
  rw [decode, serves.planned, modelStep_ok, serves.located, modelStep_ok, none, modelStep_error]

/-- Both values have normal forms, so the comparison decides. -/
theorem compareDecoded_eq (wellFormed : compiled.module.WellFormed) (decoded : Value) :
    (compiled.compareDecoded typeName value decoded : Except (RoundTripError ε) Value) =
      if (decoded.normal compiled.module node).same (value.normal compiled.module node) then
        .ok decoded
      else .error (.mismatch (value.normal compiled.module node) decoded) := by
  have form : ∀ value, compiled.normalForm typeName value =
      .ok (Value.normal compiled.module node value) := by
    intro value
    rw [normalForm, serves.located]
    exact wellFormed.normalized_eq_normal node serves.sound value
  rw [compareDecoded, form, form]

variable {seed : Value} (seeded : compiled.module.defaultInstance node = .ok seed)

include seeded

theorem decode_unread {cause : ε}
    (failed : codec.decode compiled.module node seed state = (.error cause, after)) :
    compiled.decode codec typeName state = (.error (.codec cause), after) := by
  rw [decode, serves.planned, modelStep_ok, serves.located, modelStep_ok, seeded, modelStep_ok,
    codecStep_error failed]

variable {decoded : Value}
  (read : codec.decode compiled.module node seed state = (.ok decoded, after))

include read

theorem decode_rejected {violation : Violation}
    (refused : plan.validate decoded = .error violation) :
    compiled.decode codec typeName state = (.error (.rejected violation), after) := by
  rw [decode, serves.planned, modelStep_ok, serves.located, modelStep_ok, seeded, modelStep_ok,
    codecStep_ok read, validStep_error refused]

theorem decode_valid (valid : plan.validate decoded = .ok ()) :
    compiled.decode codec typeName state = (.ok decoded, after) := by
  rw [decode, serves.planned, modelStep_ok, serves.located, modelStep_ok, seeded, modelStep_ok,
    codecStep_ok read, validStep_ok valid]
  rfl

end Serves

end

end CompiledModule

end Asn1Constraints
