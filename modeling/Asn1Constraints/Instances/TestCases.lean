import Asn1Constraints.Instances.ChaCha
import Asn1Constraints.Value.Document

/-!
Reproducible test cases of a type. Every case has a seed of its own, made of the
base seed, the type name and the index, so one case can be drawn again without
the others.
-/

namespace Asn1Constraints

namespace CaseSeed

def multiplier : UInt64 := 0x100000001b3

def mixByte (hash : UInt64) (byte : UInt8) : UInt64 := (hash ^^^ byte.toUInt64) * multiplier

def ofName (seed : UInt64) (name : String) : UInt64 :=
  name.toUTF8.toList.foldl mixByte (seed ^^^ 0xcbf29ce484222325)

def ofIndex (typeSeed index : UInt64) : UInt64 :=
  (typeSeed ^^^ (index * 0x9e3779b97f4a7c15)) * multiplier

end CaseSeed

/-- The seed of a case. -/
def caseSeed (seed : UInt64) (typeName : String) (index : UInt64) : UInt64 :=
  CaseSeed.ofIndex (CaseSeed.ofName seed typeName) index

structure TestCase where
  index : Nat
  seed : UInt64
  value : Json

structure TestCaseReport where
  typeName : String
  seed : UInt64
  cases : List TestCase

namespace TestCaseReport

def caseJson (case : TestCase) : Json :=
  .object [("index", .ofNat case.index), ("seed", .ofUInt64 case.seed), ("value", case.value)]

def toJson (report : TestCaseReport) : Json :=
  .object [("type_name", .string report.typeName), ("seed", .ofUInt64 report.seed),
    ("cases", .array (report.cases.map caseJson))]

end TestCaseReport

/-- A generator for the types of a module, on any source that can be seeded. -/
structure TestCaseGenerator (σ : Type) where
  module : TypeModule
  options : TestCaseOptions
  source : RandomSource σ
  ofSeed : UInt64 → σ

namespace TestCaseGenerator

variable {σ : Type}

/-- The generator on the ChaCha keystream. -/
def standard (module : TypeModule) (options : TestCaseOptions) :
    TestCaseGenerator ChaChaStream :=
  ⟨module, options, ChaChaStream.source, ChaChaStream.ofSeed⟩

def seedOf (generator : TestCaseGenerator σ) (typeName : String) (index : Nat) : UInt64 :=
  caseSeed generator.options.seed typeName (UInt64.ofNat index)

def drawCase (generator : TestCaseGenerator σ) (assignment : TypeAssignment)
    (typeName : String) (index : Nat) : Except Error Value :=
  (generator.module.drawInstance generator.source generator.options assignment.type
    (generator.ofSeed (generator.seedOf typeName index))).1

/-- The values of the cases from 0 up to below `count`. -/
def generate (generator : TestCaseGenerator σ) (typeName : String) (count : Nat) :
    Except Error (List Value) := do
  let assignment ← generator.module.require typeName
  (List.range count).mapM (generator.drawCase assignment typeName)

def renderCase (generator : TestCaseGenerator σ) (assignment : TypeAssignment)
    (typeName : String) (entry : Value × Nat) : Except Error TestCase := do
  let json ← entry.1.toJson generator.module assignment.type
  return ⟨entry.2, generator.seedOf typeName entry.2, json⟩

def report (generator : TestCaseGenerator σ) (typeName : String) (count : Nat) :
    Except Error TestCaseReport := do
  let assignment ← generator.module.require typeName
  let values ← generator.generate typeName count
  let cases ← values.zipIdx.mapM (generator.renderCase assignment typeName)
  return ⟨assignment.name, generator.options.seed, cases⟩

end TestCaseGenerator

end Asn1Constraints
