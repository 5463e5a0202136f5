import Asn1Constraints.Binary64.Decimal
import Asn1Constraints.Json.Fault

/-!
Options of the test-case generator. The two probabilities must lie within 0..=1.
-/

namespace Asn1Constraints

structure TestCaseOptions where
  seed : UInt64
  /-- Longest string or collection, unless the declared minimum is longer. -/
  maxCollectionLen : UInt64
  /-- Probability that an optional component is present. -/
  optionalPresence : Binary64
  /-- Probability that a number or size is one of its bounds. -/
  boundaryBias : Binary64
deriving DecidableEq, Repr

/-- A probability outside 0..=1. -/
structure OptionsError where
  name : String
  found : Binary64

def OptionsError.message (error : OptionsError) : String :=
  let shown := Layout.plain.text error.found
  s!"invalid options: {error.name} must be within 0..=1, got {shown}"

namespace TestCaseOptions

/-- Seed 42, lengths up to 16, components present half the time, bounds drawn
three times out of ten. -/
def standard : TestCaseOptions := ⟨42, 16, Binary64.half, ⟨0x3fd3333333333333⟩⟩

def isProbability (x : Binary64) : Bool := Binary64.zero.atMost x && x.atMost Binary64.one

def check (options : TestCaseOptions) : Except OptionsError Unit :=
  if !isProbability options.optionalPresence then
    .error ⟨"optional_presence", options.optionalPresence⟩
  else if !isProbability options.boundaryBias then
    .error ⟨"boundary_bias", options.boundaryBias⟩
  else .ok ()

def toJson (options : TestCaseOptions) : Json :=
  .object [("seed", .ofUInt64 options.seed),
    ("max_collection_len", .ofUInt64 options.maxCollectionLen),
    ("optional_presence", .ofReal options.optionalPresence),
    ("boundary_bias", .ofReal options.boundaryBias)]

def ofMembers (members : Members) : Except Fault TestCaseOptions := do
  let boundaryBias ← members.optional? "boundary_bias" Json.readReal
  let maxCollectionLen ← members.optional? "max_collection_len" Json.readUInt64
  let optionalPresence ← members.optional? "optional_presence" Json.readReal
  let seed ← members.optional? "seed" Json.readUInt64
  let seed ← required "seed" seed
  let maxCollectionLen ← required "max_collection_len" maxCollectionLen
  let optionalPresence ← required "optional_presence" optionalPresence
  return ⟨seed, maxCollectionLen, optionalPresence, ← required "boundary_bias" boundaryBias⟩

def ofItems (items : List Json) : Except Fault TestCaseOptions := do
  let expected := "struct TestCaseOptions with 4 elements"
  let seed ← Json.readUInt64 (← itemAt items 0 expected)
  let maxCollectionLen ← Json.readUInt64 (← itemAt items 1 expected)
  let optionalPresence ← Json.readReal (← itemAt items 2 expected)
  let boundaryBias ← Json.readReal (← itemAt items 3 expected)
  noFurtherItems items 4
  return ⟨seed, maxCollectionLen, optionalPresence, boundaryBias⟩

def ofJson : Json → Except Fault TestCaseOptions
  | .object members => ofMembers members
  | .array items => ofItems items
  | found => .error (.wrongType found "struct TestCaseOptions")

end TestCaseOptions

end Asn1Constraints
