import Asn1Constraints.Instances.ChaCha
import Asn1Constraints.Proofs.DrawnInstances
import Asn1Constraints.Proofs.RoundedSums
import Mathlib

/-!
The keystream answers within the range asked for, whatever words it is made of.
A whole number is the high part of a product, and carries into the next one only
where there is a next one; a real is a proper fraction of the span.
-/

namespace Asn1Constraints

namespace Binary64

/-- The largest sum of places below one. -/
def belowOne : Binary64 := ⟨0x3feffffffffffffe⟩

theorem belowOne_size : belowOne.size = 1 - (2 : ℚ) ^ (-52 : ℤ) := by
  have significand : belowOne.significand = 2 ^ 53 - 2 := by decide
  have exponent : belowOne.exponent = -53 := by decide
  rw [size, significand, exponent]
  norm_num

theorem onePlus_parts (places : UInt64) (few : places.toNat < 2 ^ 52) :
    (⟨one.bits ||| places⟩ : Binary64).negative = false ∧
      (⟨one.bits ||| places⟩ : Binary64).significand = 2 ^ 52 + places.toNat ∧
      (⟨one.bits ||| places⟩ : Binary64).exponent = -52 ∧
      (⟨one.bits ||| places⟩ : Binary64).isFinite = true := by
  -- The bits of one leave the place of the significand empty.
  have bits : (one.bits ||| places).toNat = 1023 * 2 ^ 52 + places.toNat := by
    rw [UInt64.toNat_or]
    exact (Nat.two_pow_add_eq_or_of_lt few 1023).symm
  have magnitude :
      (⟨one.bits ||| places⟩ : Binary64).magnitude = 1023 * 2 ^ 52 + places.toNat := by
    simp only [Binary64.magnitude, bits, signBit]
    omega
  have field : (⟨one.bits ||| places⟩ : Binary64).exponentField = 1023 := by
    rw [exponentField, magnitude, exponentUnit]
    omega
  refine ⟨?_, ?_, ?_, ?_⟩
  · simp only [negative, bits, signBit, decide_eq_false_iff_not]
    omega
  · rw [significand, field, if_neg (by decide), magnitude, exponentUnit]
    omega
  · rw [exponent, field]
    rfl
  · simp only [isFinite, magnitude, infiniteMagnitude, decide_eq_true_eq]
    omega

/-- A value between zero and the largest sum of places below one. -/
theorem isProperFraction_of_rank {x : Binary64} (number : x.isNaN = false) (low : 0 ≤ x.rank)
    (high : x.rank ≤ belowOne.rank) : x.IsProperFraction := by
  have own := magnitude_of_rank_nonneg low
  have top : belowOne.rank = belowOne.magnitude := by decide
  have short : belowOne.magnitude < one.magnitude := by decide
  have zeroRank : zero.rank = 0 := by decide
  have oneRank : one.rank = one.magnitude := by decide
  constructor
  · constructor
    · simp [atMost, number, show zero.isNaN = false from by decide, zeroRank, low]
    · have under : x.rank ≤ one.rank := by omega
      simp [atMost, number, show one.isNaN = false from by decide, under]
  · rw [← belowOne_size]
    exact size_le_of_magnitude_le (by decide) (by omega)

/-- One and a sum of 52 places, less the one. -/
theorem places_isProperFraction (places : UInt64) (few : places.toNat < 2 ^ 52) :
    (sub ⟨one.bits ||| places⟩ one).IsProperFraction := by
  obtain ⟨sign, significand, exponent, finite⟩ := onePlus_parts places few
  generalize (⟨one.bits ||| places⟩ : Binary64) = onePlus at *
  -- Without the one, the places count units of the last place.
  have unit : onePlus.number + one.neg.number = places.toNat * (2 : ℚ) ^ (-52 : ℤ) := by
    have oneSignificand : one.significand = 2 ^ 52 := by decide
    have oneExponent : one.exponent = -52 := by decide
    rw [neg_number, number_of_not_negative sign, number_of_not_negative (by decide), size, size,
      significand, exponent, oneSignificand, oneExponent]
    push_cast
    ring
  have some : zero.number ≤ onePlus.number + one.neg.number := by
    rw [number_eq_zero (x := zero) (by decide), unit]
    positivity
  have short : onePlus.number + one.neg.number ≤ belowOne.number := by
    have most : (places.toNat : ℚ) ≤ 2 ^ 52 - 1 := by
      have : (places.toNat : ℚ) + 1 ≤ 2 ^ 52 := by exact_mod_cast few
      linarith
    rw [number_of_not_negative (x := belowOne) (by decide), belowOne_size, unit]
    calc (places.toNat : ℚ) * 2 ^ (-52 : ℤ) ≤ (2 ^ 52 - 1) * 2 ^ (-52 : ℤ) := by gcongr
      _ = 1 - 2 ^ (-52 : ℤ) := by norm_num
  apply isProperFraction_of_rank
  · exact add_not_nan onePlus one.neg finite (by decide)
  · have low := le_add_rank onePlus one.neg finite (by decide) zero (by decide) some
    rwa [show zero.rank = 0 from by decide] at low
  · exact add_rank_le onePlus one.neg finite (by decide) belowOne (by decide) short

end Binary64

namespace ChaChaStream

theorem offset_answers (size span : ℕ) {draw : StateM ChaChaStream ℕ} (positive : 0 < span)
    (draws : Answers (· < size) draw) : Answers (· < span) (offset size span draw) := by
  refine draws.bind fun first small => ?_
  have product : first * span < size * span := Nat.mul_lt_mul_of_pos_right small positive
  have whole : first * span / size < span := Nat.div_lt_of_lt_mul product
  simp only
  split
  · rename_i carrying
    refine draws.bind fun second _ => .pure ?_
    split
    · -- The last offset leaves less than what makes a carry possible.
      have parts := Nat.div_add_mod (first * span) size
      have room : (first + 1) * span ≤ size * span := Nat.mul_le_mul_right span small
      by_contra beyond
      have last : size * span ≤ size * (first * span / size + 1) :=
        Nat.mul_le_mul_left size (not_lt.mp beyond)
      rw [Nat.add_mul] at room
      rw [Nat.mul_add] at last
      omega
    · exact whole
  · exact .pure whole

theorem naturalWord_answers : Answers (· < UInt32.size) naturalWord :=
  (Answers.anything word).bind fun drawn _ => .pure drawn.toNat_lt

theorem naturalDoubleWord_answers : Answers (· < UInt64.size) naturalDoubleWord :=
  (Answers.anything doubleWord).bind fun drawn _ => .pure drawn.toNat_lt

theorem integerWithin_answers (low high : Int64) (ordered : low ≤ high) :
    Answers (fun n => low ≤ n ∧ n ≤ high) (integerWithin low high) := by
  have lowest := low.le_toInt
  have highest := high.toInt_lt
  rw [Int64.le_iff_toInt_le] at ordered
  unfold integerWithin
  simp only [Int64.le_iff_toInt_le]
  -- A range of all words takes any word; a smaller one counts steps from its lower end.
  split
  · rename_i whole
    refine (Answers.anything doubleWord).bind fun drawn _ => .pure ?_
    have bottom := drawn.toInt64.le_toInt
    have top := drawn.toInt64.toInt_lt
    rw [UInt64.size] at whole
    omega
  · rename_i part
    have steps := offset_answers UInt64.size (high.toInt - low.toInt + 1).toNat (by omega)
      naturalDoubleWord_answers
    refine steps.bind fun count few => .pure ?_
    rw [Int64.toInt_ofInt_of_le (by omega) (by omega)]
    omega

theorem lengthWithin_answers (low high : UInt64) (ordered : low ≤ high) :
    Answers (fun n => low ≤ n ∧ n ≤ high) (lengthWithin low high) := by
  have highest := high.toNat_lt
  rw [UInt64.le_iff_toNat_le] at ordered
  unfold lengthWithin
  simp only [UInt64.le_iff_toNat_le]
  split
  · rename_i whole
    refine (Answers.anything doubleWord).bind fun drawn _ => .pure ?_
    have top := drawn.toNat_lt
    rw [UInt64.size] at whole
    omega
  · have steps := offset_answers UInt64.size (high.toNat - low.toNat + 1) (by omega)
      naturalDoubleWord_answers
    refine steps.bind fun count few => .pure ?_
    rw [UInt64.toNat_ofNat_of_lt' (by rw [UInt64.size]; omega)]
    omega

theorem octetWithin_answers (low high : UInt8) (ordered : low ≤ high) :
    Answers (fun n => low ≤ n ∧ n ≤ high) (octetWithin low high) := by
  have highest := high.toNat_lt
  rw [UInt8.le_iff_toNat_le] at ordered
  have steps := offset_answers UInt32.size (high.toNat - low.toNat + 1) (by omega)
    naturalWord_answers
  refine steps.bind fun count few => .pure ?_
  simp only [UInt8.le_iff_toNat_le]
  rw [UInt8.toNat_ofNat_of_lt' (by rw [UInt8.size]; omega)]
  omega

theorem fraction_answers : Answers Binary64.IsProperFraction fraction := by
  refine (Answers.anything doubleWord).bind fun drawn _ => .pure ?_
  apply Binary64.places_isProperFraction
  have top := drawn.toNat_lt
  rw [UInt64.toNat_shiftRight, Nat.shiftRight_eq_div_pow]
  exact Nat.div_lt_of_lt_mul (by simpa using top)

theorem source_faithful : source.Faithful where
  integerWithin low high stream proper := integerWithin_answers low high proper stream
  lengthWithin low high stream proper := lengthWithin_answers low high proper stream
  realWithin low high stream proper := by
    obtain ⟨atLow, atHigh, ordered, spanned⟩ := proper
    have drawn : Answers (fun x => low.atMost x = true ∧ x.atMost high = true)
        (realWithin low high) :=
      fraction_answers.bind fun fraction isProper =>
        .pure (isProper.between atLow atHigh ordered spanned)
    exact drawn stream
  position count stream proper := offset_answers UInt32.size count proper naturalWord_answers stream
  octetWithin low high stream proper := octetWithin_answers low high proper stream

end ChaChaStream

end Asn1Constraints
