import Asn1Constraints.Proofs.ReportedCases
import Mathlib

/-!
Seeds of cases. Each step from a base seed to the seed of a case can be undone: an
exclusive or by doing it again, a product with an odd word because such a word has
no factor in common with the number of words. So no step makes two words one, however
many steps the bytes of a name ask for, and cases of one run never share a seed.
-/

namespace Asn1Constraints

namespace CaseSeed

open Function (Bijective Injective)

/-! The two steps. -/

theorem xor_bijective (key : UInt64) : Bijective (· ^^^ key) := by
  have involutive : Function.Involutive (· ^^^ key) := by
    intro word
    simp
  exact involutive.bijective

theorem xor_bijective_left (key : UInt64) : Bijective (key ^^^ ·) := by
  simpa only [UInt64.xor_comm key] using xor_bijective key

theorem mul_odd_injective {factor : UInt64} (odd : factor.toNat % 2 = 1) :
    Injective (· * factor) := by
  intro word other same
  have words := congrArg UInt64.toNat same
  simp only [UInt64.toNat_mul] at words
  -- The product wraps, so the factor is cancelled modulo the number of words.
  have congruent : word.toNat * factor.toNat ≡ other.toNat * factor.toNat [MOD 2 ^ 64] := words
  have coprime : Nat.Coprime (2 ^ 64) factor.toNat :=
    (Nat.coprime_two_left.mpr (Nat.odd_iff.mpr odd)).pow_left 64
  have equal := congruent.cancel_right_of_coprime coprime
  exact UInt64.toNat_inj.mp (equal.eq_of_lt_of_lt word.toNat_lt other.toNat_lt)

theorem mul_odd_bijective {factor : UInt64} (odd : factor.toNat % 2 = 1) :
    Bijective (· * factor) :=
  Finite.injective_iff_bijective.mp (mul_odd_injective odd)

theorem multiplier_odd : multiplier.toNat % 2 = 1 := by decide

/-! The runs of steps. -/

theorem mixByte_bijective (byte : UInt8) : Bijective (mixByte · byte) :=
  (mul_odd_bijective multiplier_odd).comp (xor_bijective byte.toUInt64)

theorem mixBytes_bijective (bytes : List UInt8) :
    Bijective fun hash => bytes.foldl mixByte hash := by
  induction bytes with
  | nil => exact Function.bijective_id
  | cons byte rest ih => exact ih.comp (mixByte_bijective byte)

theorem ofName_bijective (name : String) : Bijective (ofName · name) :=
  (mixBytes_bijective name.toUTF8.toList).comp (xor_bijective _)

theorem ofIndex_bijective (typeSeed : UInt64) : Bijective (ofIndex typeSeed) := by
  have scaled : Bijective fun index : UInt64 => index * 0x9e3779b97f4a7c15 :=
    mul_odd_bijective (by decide)
  exact ((mul_odd_bijective multiplier_odd).comp (xor_bijective_left typeSeed)).comp scaled

theorem ofIndex_bijective_seed (index : UInt64) : Bijective (ofIndex · index) :=
  (mul_odd_bijective multiplier_odd).comp (xor_bijective _)

end CaseSeed

theorem caseSeed_bijective (seed : UInt64) (typeName : String) :
    Function.Bijective (caseSeed seed typeName) :=
  CaseSeed.ofIndex_bijective _

theorem caseSeed_bijective_base (typeName : String) (index : UInt64) :
    Function.Bijective fun seed => caseSeed seed typeName index :=
  (CaseSeed.ofIndex_bijective_seed index).comp (CaseSeed.ofName_bijective typeName)

namespace TestCaseGenerator

variable {σ : Type} (generator : TestCaseGenerator σ) (typeName : String)

/-- The seeds of a run, case by case. -/
def runSeeds (count : ℕ) : List UInt64 := (List.range count).map (generator.seedOf typeName)

theorem runSeeds_nodup (count : UInt64) : (generator.runSeeds typeName count.toNat).Nodup := by
  apply List.nodup_range.map_on
  intro place inside other alsoInside same
  have bound := count.toNat_lt
  have below := (List.mem_range.mp inside).trans bound
  have alsoBelow := (List.mem_range.mp alsoInside).trans bound
  -- Numbers of cases below the count are words, and no two of them the same.
  have words : UInt64.ofNat place = UInt64.ofNat other := (caseSeed_bijective _ _).injective same
  have numbers := congrArg UInt64.toNat words
  rwa [UInt64.toNat_ofNat_of_lt' below, UInt64.toNat_ofNat_of_lt' alsoBelow] at numbers

variable {generator typeName} {count : ℕ}

theorem renderCase_seed {assignment : TypeAssignment} {entry : Value × ℕ} {case : TestCase}
    (rendered : generator.renderCase assignment typeName entry = .ok case) :
    generator.seedOf typeName entry.2 = case.seed := by
  obtain ⟨json, _, same⟩ := bind_ok_iff.mp rendered
  cases same
  rfl

/-- A report names the seeds of its run. -/
theorem report_seeds {report : TestCaseReport}
    (reported : generator.report typeName count = .ok report) :
    report.cases.map (·.seed) = generator.runSeeds typeName count := by
  obtain ⟨assignment, found, following⟩ := bind_ok_iff.mp reported
  obtain ⟨values, generated, written⟩ := bind_ok_iff.mp following
  obtain ⟨cases, rendered, same⟩ := bind_ok_iff.mp written
  cases same
  have length : values.length = count := by
    simpa using (generate_ok found generated).length_eq.symm
  have seeds := (mapM_ok_forall₂ rendered).imp fun _ _ => renderCase_seed
  have listed : (values.zipIdx.map Prod.snd).map (generator.seedOf typeName) =
      cases.map (·.seed) := by
    rw [List.map_map, ← List.forall₂_eq_eq_eq, List.forall₂_map_left_iff,
      List.forall₂_map_right_iff]
    exact seeds
  rw [← listed, List.zipIdx_map_snd, length, runSeeds, List.range_eq_range']

end TestCaseGenerator

/-- Neither two cases of a type nor two base seeds are ever given the same seed, so the
cases of a run are generated and reported from seeds of their own. -/
theorem caseSeeds_distinct :
    (∀ seed typeName, Function.Bijective (caseSeed seed typeName)) ∧
      (∀ typeName index, Function.Bijective fun seed => caseSeed seed typeName index) ∧
      ∀ {σ : Type} (generator : TestCaseGenerator σ) (typeName : String) (count : UInt64),
        (generator.runSeeds typeName count.toNat).Nodup ∧
          ∀ report, generator.report typeName count.toNat = .ok report →
            report.cases.map (·.seed) = generator.runSeeds typeName count.toNat := by
  refine ⟨caseSeed_bijective, caseSeed_bijective_base, ?_⟩
  intro σ generator typeName count
  exact ⟨generator.runSeeds_nodup typeName count, fun _ => TestCaseGenerator.report_seeds⟩

end Asn1Constraints
