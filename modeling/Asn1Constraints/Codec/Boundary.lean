import Asn1Constraints.Instances.Default
import Asn1Constraints.Plan.Compile
import Asn1Constraints.Validation.Walk
import Asn1Constraints.Value.Normal

/-!
The boundary between values and a wire format. A codec is any pair of encode and
decode functions over a state of its own. Only values that validate are handed
to it, and only values that validate come back.
-/

namespace Asn1Constraints

/-- Encoding takes a value of a node of the module; decoding starts from the
default instance of the node. The state is kept whether or not a call fails. -/
structure Codec (σ ε : Type) where
  encode : TypeModule → TypeNode → Value → ExceptT ε (StateM σ) Unit
  decode : TypeModule → TypeNode → Value → ExceptT ε (StateM σ) Value

inductive BoundaryError (ε : Type) where
  | model (error : Error)
  | rejected (violation : Violation)
  | codec (error : ε)

/-- Where a round trip stopped. -/
inductive RoundTripError (ε : Type) where
  | encode (cause : BoundaryError ε)
  | decode (cause : BoundaryError ε)
  | constraint (violation : Violation)
  /-- The normal form of the value, and what was decoded. -/
  | mismatch (expected found : Value)

namespace BoundaryError

variable {ε : Type}

def violation? : BoundaryError ε → Option Violation
  | .rejected violation => some violation
  | _ => none

def message (codecMessage : ε → String) : BoundaryError ε → String
  | .model error => error.message
  | .rejected violation => s!"value rejected: {violation.message}"
  | .codec error =>
    let cause := codecMessage error
    s!"codec error: {cause}"

end BoundaryError

namespace RoundTripError

variable {ε : Type}

def stage : RoundTripError ε → Nat
  | .encode _ => 1
  | .decode _ => 2
  | .constraint _ => 3
  | .mismatch _ _ => 4

def message (codecMessage : ε → String) : RoundTripError ε → String
  | .encode cause =>
    let shown := cause.message codecMessage
    s!"encode failed: {shown}"
  | .decode cause =>
    let shown := cause.message codecMessage
    s!"decode failed: {shown}"
  | .constraint violation => s!"decoded value is invalid: {violation.message}"
  | .mismatch expected found =>
    s!"decoded value differs: expected {expected.dump}, found {found.dump}"

end RoundTripError

/-- A call at the boundary: what it gives and the codec after it. -/
abbrev BoundaryCall (σ ε : Type) := ExceptT (BoundaryError ε) (StateM σ)

namespace CompiledModule

variable {σ ε : Type}

def modelStep {α : Type} (result : Except Error α) : BoundaryCall σ ε α :=
  ExceptT.mk (pure (result.mapError .model))

def validStep (plan : ValidationPlan) (value : Value) : BoundaryCall σ ε Unit :=
  ExceptT.mk (pure ((plan.validate value).mapError .rejected))

def codecStep {α : Type} (call : ExceptT ε (StateM σ) α) : BoundaryCall σ ε α :=
  ExceptT.mk do
    let result ← call.run
    return result.mapError .codec

/-- Encode a value that validates; the codec is not called otherwise. -/
def encode (compiled : CompiledModule) (codec : Codec σ ε) (typeName : String)
    (value : Value) : BoundaryCall σ ε Unit := do
  let plan ← modelStep (compiled.requirePlan typeName)
  validStep plan value
  let node ← modelStep (compiled.typeNode typeName)
  codecStep (codec.encode compiled.module node value)

/-- Decode a value and reject it unless it validates. -/
def decode (compiled : CompiledModule) (codec : Codec σ ε) (typeName : String) :
    BoundaryCall σ ε Value := do
  let plan ← modelStep (compiled.requirePlan typeName)
  let node ← modelStep (compiled.typeNode typeName)
  let seed ← modelStep (compiled.module.defaultInstance node)
  let value ← codecStep (codec.decode compiled.module node seed)
  validStep plan value
  return value

def normalForm (compiled : CompiledModule) (typeName : String) (value : Value) :
    Except Error Value := do
  let node ← compiled.typeNode typeName
  value.normalized compiled.module node

/-- Compare what was decoded with what was encoded, up to the order of components. -/
def compareDecoded (compiled : CompiledModule) (typeName : String) (value decoded : Value) :
    Except (RoundTripError ε) Value :=
  match compiled.normalForm typeName value with
  | .error error => .error (.decode (.model error))
  | .ok expected =>
    match compiled.normalForm typeName decoded with
    | .error error => .error (.decode (.model error))
    | .ok normal =>
      if normal.same expected then .ok decoded else .error (.mismatch expected decoded)

def decodeFailure : BoundaryError ε → RoundTripError ε
  | .rejected violation => .constraint violation
  | other => .decode other

/-- Encode, decode, validate and compare one value. -/
def roundTrip (compiled : CompiledModule) (codec : Codec σ ε) (typeName : String)
    (value : Value) : ExceptT (RoundTripError ε) (StateM σ) Value :=
  ExceptT.mk do
    match ← (compiled.encode codec typeName value).run with
    | .error cause => return .error (.encode cause)
    | .ok () =>
      match ← (compiled.decode codec typeName).run with
      | .error cause => return .error (decodeFailure cause)
      | .ok decoded => return compiled.compareDecoded typeName value decoded

end CompiledModule

end Asn1Constraints
