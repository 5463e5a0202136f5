import Asn1Constraints.Proofs.ShortestDecimals
import Mathlib

/-!
Sums and spans. An exact sum is rounded neither above a value that it does not
exceed nor below one that it reaches. A proper fraction of a rounded span stays
within the exact span: the rounding of the span is undone by what the fraction
leaves off.
-/

namespace Asn1Constraints.Binary64

/-! Rounding from above. -/

/-- What reaches a value is not rounded below it. -/
theorem le_nearestMagnitude (x : Binary64) (finite : x.isFinite = true) (num den : ℕ)
    (positive : 0 < den) (reached : x.size ≤ num / den) :
    x.magnitude ≤ nearestMagnitude num den := by
  have parts := x.magnitude_eq_parts
  simp only [isFinite, decide_eq_true_eq] at finite
  rcases Nat.eq_zero_or_pos x.significand with none | present
  · have bottom : x.exponent = -1074 := x.significand_full.resolve_left (by omega)
    simp [parts, none, bottom]
  · have value : 0 < x.size := by
      unfold size
      positivity
    have some : num ≠ 0 := by
      rintro rfl
      simp only [Nat.cast_zero, zero_div] at reached
      exact absurd value (not_lt.mpr reached)
    obtain ⟨low, high⟩ := binaryScale_bounds num den (Nat.pos_of_ne_zero some) positive
    simp only [nearestMagnitude, if_neg some]
    generalize scaled : max (binaryScale num den - 52) (-1074) = scale
    refine le_min ?_ finite.le
    have least := x.least_exponent
    -- The quotient reaches the scale of the value, whose significand fills its place.
    have coarse : x.exponent ≤ scale := by
      rcases x.significand_full with full | bottom
      · have top : (2 : ℚ) ^ (52 + x.exponent) < 2 ^ (binaryScale num den + 1) := calc
          (2 : ℚ) ^ (52 + x.exponent) = 2 ^ (52 : ℤ) * 2 ^ x.exponent := zpow_add₀ two_ne_zero _ _
          _ ≤ x.significand * 2 ^ x.exponent := by
              gcongr
              exact_mod_cast full
          _ ≤ num / den := reached
          _ < 2 ^ (binaryScale num den + 1) := high
        have := (zpow_lt_zpow_iff_right₀ (one_lt_two : (1 : ℚ) < 2)).mp top
        omega
      · omega
    rcases Int.lt_or_eq_of_le coarse with coarser | same
    · have placed : binaryScale num den = 52 + scale := by omega
      have filled := significand_fills num den positive placed low
      have short := x.significand_lt
      have steps : (x.exponent + 1074).toNat + 1 ≤ (scale + 1074).toNat := by omega
      have room := Nat.mul_le_mul_right exponentUnit steps
      simp only [exponentUnit] at *
      omega
    · subst same
      rw [parts]
      exact Nat.add_le_add_left (le_roundHalfEven_grid num den _ positive _ reached) _

/-- What is at most the next smaller significand is not rounded up to the value. -/
theorem nearestMagnitude_lt (x : Binary64) (some : 0 < x.significand) (num den : ℕ)
    (positive : 0 < den)
    (below : (num / den : ℚ) ≤ (x.significand - 1 : ℕ) * (2 : ℚ) ^ x.exponent) :
    nearestMagnitude num den < x.magnitude := by
  have short := x.significand_lt
  have least := x.least_exponent
  rw [x.magnitude_eq_parts]
  by_cases filled : 2 ^ 52 ≤ x.significand - 1 ∨ x.exponent = -1074
  · have rounded := nearestMagnitude_le num den positive (x.significand - 1) x.exponent least
      (by omega) filled below
    omega
  · -- Below the smallest full significand the values are twice as close.
    obtain ⟨scant, above⟩ := not_or.mp filled
    have full : x.significand = 2 ^ 52 := by
      have := x.significand_full.resolve_right above
      omega
    have closer : (num / den : ℚ) ≤ (2 ^ 53 - 1 : ℕ) * (2 : ℚ) ^ (x.exponent - 1) := by
      have half : (2 : ℚ) ^ x.exponent = 2 * 2 ^ (x.exponent - 1) := by
        rw [← zpow_one_add₀ two_ne_zero]
        congr 1
        ring
      have step : (0 : ℚ) < 2 ^ (x.exponent - 1) := by positivity
      rw [full, half] at below
      norm_num at below ⊢
      linarith
    have rounded := nearestMagnitude_le num den positive (2 ^ 53 - 1) (x.exponent - 1) (by omega)
      (by omega) (.inl (by omega)) closer
    have steps : (x.exponent - 1 + 1074).toNat + 1 = (x.exponent + 1074).toNat := by omega
    rw [← steps, full]
    simp only [exponentUnit] at *
    omega

/-! Signed values. -/

/-- The number that a finite bit pattern stands for. -/
def number (x : Binary64) : ℚ := if x.negative then -x.size else x.size

theorem number_of_not_negative {x : Binary64} (sign : x.negative = false) : x.number = x.size := by
  simp [number, sign]

theorem number_of_negative {x : Binary64} (sign : x.negative = true) : x.number = -x.size := by
  simp [number, sign]

theorem size_congr {x y : Binary64} (same : x.magnitude = y.magnitude) : x.size = y.size := by
  simp [size, significand, exponent, exponentField, same]

theorem size_of_magnitude_zero {x : Binary64} (none : x.magnitude = 0) : x.size = 0 := by
  have parts := x.magnitude_eq_parts
  have nothing : x.significand = 0 := by omega
  simp [size, nothing]

theorem magnitude_le_of_size_le {x y : Binary64} (finite : x.isFinite = true)
    (below : x.size ≤ y.size) : x.magnitude ≤ y.magnitude := by
  rw [size_eq_quotient x] at below
  rw [← nearestMagnitude_self x finite]
  exact nearestMagnitude_le_magnitude y _ _ x.denominator_pos below

theorem size_le_of_magnitude_le {x y : Binary64} (finite : y.isFinite = true)
    (below : x.magnitude ≤ y.magnitude) : x.size ≤ y.size := by
  by_contra above
  have back := magnitude_le_of_size_le finite (not_le.mp above).le
  exact above (size_congr (Nat.le_antisymm below back)).le

theorem number_le_of_rank_le {x y : Binary64} (left : x.isFinite = true) (right : y.isFinite = true)
    (ordered : x.rank ≤ y.rank) : x.number ≤ y.number := by
  have first := x.size_nonneg
  have second := y.size_nonneg
  cases low : x.negative with
  | false =>
      cases high : y.negative with
      | false =>
          rw [rank_of_not_negative low, rank_of_not_negative high] at ordered
          rw [number_of_not_negative low, number_of_not_negative high]
          exact size_le_of_magnitude_le right (by omega)
      -- Against their signs only the two zeros are in order.
      | true =>
          rw [rank_of_not_negative low, rank_of_negative high] at ordered
          rw [number_of_not_negative low, number_of_negative high,
            size_of_magnitude_zero (x := x) (by omega), size_of_magnitude_zero (x := y) (by omega),
            neg_zero]
  | true =>
      rw [number_of_negative low]
      cases high : y.negative with
      | false =>
          rw [number_of_not_negative high]
          linarith
      | true =>
          rw [rank_of_negative low, rank_of_negative high] at ordered
          rw [number_of_negative high]
          exact neg_le_neg (size_le_of_magnitude_le left (by omega))

theorem neg_finite {x : Binary64} (finite : x.isFinite = true) : x.neg.isFinite = true := by
  simpa [isFinite, x.neg_parts.1] using finite

theorem neg_number (x : Binary64) : x.neg.number = -x.number := by
  obtain ⟨magnitude, sign⟩ := x.neg_parts
  rw [number, number, sign, size_congr magnitude]
  cases x.negative <;> simp

/-- At a scale not above its exponent a value is a whole number of steps. -/
theorem scaledInt_number (x : Binary64) (scale : Int) (fine : scale ≤ x.exponent) :
    (x.scaledInt scale : ℚ) * 2 ^ scale = x.number := by
  have size := x.scaledInt_size scale fine
  have sign := x.scaledInt_sign scale
  rw [number, ← size]
  cases negative : x.negative with
  | false =>
      rw [negative, if_neg Bool.false_ne_true] at sign
      rw [if_neg Bool.false_ne_true, Nat.cast_natAbs, abs_of_nonneg sign]
  | true =>
      rw [negative, if_pos rfl] at sign
      rw [if_pos rfl, Nat.cast_natAbs, abs_of_nonpos sign]
      push_cast
      ring

/-! Rounding a signed value. -/

theorem nearestMagnitude_le_infinite (num den : ℕ) :
    nearestMagnitude num den ≤ infiniteMagnitude := by
  unfold nearestMagnitude
  split
  · exact Nat.zero_le _
  · exact Nat.min_le_right _ _

theorem ofDyadic_negative (negative : Bool) (significand : ℕ) (exponent : Int) :
    (ofDyadic negative significand exponent).magnitude =
        nearestMagnitude (significand * Nat.pow 2 exponent.toNat) (Nat.pow 2 (-exponent).toNat) ∧
      (ofDyadic negative significand exponent).negative = negative := by
  have infinite : infiniteMagnitude < signBit := by decide
  exact ofParts_parts negative _ ((nearestMagnitude_le_infinite _ _).trans_lt infinite)

/-- What reaches a value in size is not rounded to less. -/
theorem le_ofDyadic (x : Binary64) (finite : x.isFinite = true) (negative : Bool)
    (significand : ℕ) (exponent : Int) (reached : x.size ≤ significand * (2 : ℚ) ^ exponent) :
    x.magnitude ≤ (ofDyadic negative significand exponent).magnitude := by
  rw [(ofDyadic_negative negative significand exponent).1]
  rw [dyadic_eq_quotient] at reached
  exact le_nearestMagnitude x finite _ _ (Nat.pow_pos (by omega)) reached

/-- A whole number of steps, rounded. -/
def ofSteps (steps scale : Int) : Binary64 := ofDyadic (steps < 0) steps.natAbs scale

/-- A number of steps is not rounded above what it does not exceed: that is a
bound from above for the size of what is not negative, and else from below. -/
theorem ofSteps_rank_le (bound : Binary64) (finite : bound.isFinite = true) (steps scale : Int)
    (some : steps ≠ 0) (below : steps * (2 : ℚ) ^ scale ≤ bound.number) :
    (ofSteps steps scale).rank ≤ bound.rank := by
  have step : (0 : ℚ) < 2 ^ scale := by positivity
  have nonneg := bound.size_nonneg
  -- The sign is that of the steps; below zero the larger magnitude is the smaller value.
  by_cases negative : steps < 0
  · have sign : (ofSteps steps scale).negative = true := by
      rw [ofSteps, (ofDyadic_negative _ _ _).2, decide_eq_true negative]
    rw [rank_of_negative sign]
    cases own : bound.negative with
    | false =>
        rw [rank_of_not_negative own]
        omega
    | true =>
        rw [number_of_negative own] at below
        rw [rank_of_negative own]
        have reached : bound.size ≤ steps.natAbs * (2 : ℚ) ^ scale := by
          rw [Nat.cast_natAbs, abs_of_neg negative]
          push_cast
          linarith
        have := le_ofDyadic bound finite (steps < 0) steps.natAbs scale reached
        rw [ofSteps]
        omega
  · have positive : 0 < steps := by omega
    have sign : (ofSteps steps scale).negative = false := by
      rw [ofSteps, (ofDyadic_negative _ _ _).2, decide_eq_false negative]
    have above : (0 : ℚ) < steps * 2 ^ scale := by
      have : (0 : ℚ) < steps := by exact_mod_cast positive
      positivity
    rw [rank_of_not_negative sign]
    cases own : bound.negative with
    | false =>
        rw [number_of_not_negative own] at below
        rw [rank_of_not_negative own]
        have within : steps.natAbs * (2 : ℚ) ^ scale ≤ bound.size := by
          rwa [Nat.cast_natAbs, abs_of_pos positive]
        have := (ofDyadic_parts bound (steps < 0) steps.natAbs scale within).1
        rw [ofSteps]
        omega
    | true =>
        rw [number_of_negative own] at below
        linarith

theorem ofSteps_neg (steps scale : Int) (some : steps ≠ 0) :
    (ofSteps (-steps) scale).rank = -(ofSteps steps scale).rank := by
  obtain ⟨size, sign⟩ := ofDyadic_negative (steps < 0) steps.natAbs scale
  obtain ⟨other, opposite⟩ := ofDyadic_negative (-steps < 0) (-steps).natAbs scale
  rw [Int.natAbs_neg, ← size] at other
  rw [rank, rank, ofSteps, ofSteps, sign, opposite, Int.natAbs_neg, other]
  rcases Int.lt_or_gt_of_ne some with negative | positive
  · rw [decide_eq_true negative, decide_eq_false (by omega)]
    simp
  · rw [decide_eq_true (show -steps < 0 by omega), decide_eq_false (by omega)]
    simp

theorem neg_rank (x : Binary64) : x.neg.rank = -x.rank := by
  obtain ⟨magnitude, sign⟩ := x.neg_parts
  rw [rank, rank, sign, magnitude]
  cases x.negative <;> simp

theorem le_ofSteps_rank (bound : Binary64) (finite : bound.isFinite = true) (steps scale : Int)
    (some : steps ≠ 0) (reached : bound.number ≤ steps * (2 : ℚ) ^ scale) :
    bound.rank ≤ (ofSteps steps scale).rank := by
  have mirrored := ofSteps_rank_le bound.neg (neg_finite finite) (-steps) scale (by omega) (by
    rw [neg_number]
    push_cast
    linarith)
  rw [ofSteps_neg steps scale some, neg_rank] at mirrored
  omega

theorem rank_nonneg {x : Binary64} (finite : x.isFinite = true) (nonneg : 0 ≤ x.number) :
    0 ≤ x.rank := by
  cases sign : x.negative with
  | false =>
      rw [rank_of_not_negative sign]
      omega
  | true =>
      -- Only the other zero has a sign here.
      rw [number_of_negative sign] at nonneg
      have small : x.size ≤ zero.size := by
        rw [size_of_magnitude_zero (x := zero) (by decide)]
        linarith
      have none := magnitude_le_of_size_le finite small
      rw [show zero.magnitude = 0 from by decide] at none
      rw [rank_of_negative sign]
      omega

theorem magnitude_of_rank_nonneg {x : Binary64} (nonneg : 0 ≤ x.rank) :
    (x.magnitude : ℤ) = x.rank := by
  cases sign : x.negative with
  | false => rw [rank_of_not_negative sign]
  | true =>
      rw [rank_of_negative sign] at nonneg ⊢
      omega

/-- The other zero counts as no number below zero. -/
theorem number_of_rank_nonneg {x : Binary64} (nonneg : 0 ≤ x.rank) : x.number = x.size := by
  cases sign : x.negative with
  | false => exact number_of_not_negative sign
  | true =>
      rw [rank_of_negative sign] at nonneg
      rw [number_of_negative sign, size_of_magnitude_zero (by omega), neg_zero]

theorem number_eq_zero {x : Binary64} (none : x.magnitude = 0) : x.number = 0 := by
  simp [number, size_of_magnitude_zero none]

/-! Sums. -/

section

variable (x y : Binary64) (left : x.isFinite = true) (right : y.isFinite = true)

include left right

/-- A sum is exact before it is rounded, and one of zero is a zero. -/
theorem add_cases : (x.number + y.number = 0 ∧ (x.add y).magnitude = 0) ∨
    ∃ steps scale : ℤ, steps ≠ 0 ∧ -1074 ≤ scale ∧ x.number + y.number = steps * (2 : ℚ) ^ scale ∧
      x.add y = ofSteps steps scale := by
  have sum : x.add y = addFinite x y := by
    simp [add, finite_not_nan left, finite_not_nan right, left, right]
  have first := x.scaledInt_number (min x.exponent y.exponent) (by omega)
  have second := y.scaledInt_number (min x.exponent y.exponent) (by omega)
  have least := x.least_exponent
  have other := y.least_exponent
  rw [sum, addFinite, ← first, ← second, ← add_mul, ← Int.cast_add]
  split
  · rename_i zero
    have small : 0 < signBit := by decide
    exact .inl ⟨by simp [zero], (ofParts_parts _ 0 small).1⟩
  · rename_i some
    exact .inr ⟨_, min x.exponent y.exponent, some, by omega, rfl, rfl⟩

theorem add_rank_le (bound : Binary64) (finite : bound.isFinite = true)
    (below : x.number + y.number ≤ bound.number) : (x.add y).rank ≤ bound.rank := by
  rcases add_cases x y left right with ⟨zero, nothing⟩ | ⟨steps, scale, some, _, whole, sum⟩
  · rw [zero] at below
    have flat : (x.add y).rank = 0 := by simp [rank, nothing]
    exact flat.trans_le (rank_nonneg finite below)
  · rw [whole] at below
    rw [sum]
    exact ofSteps_rank_le bound finite steps scale some below

theorem le_add_rank (bound : Binary64) (finite : bound.isFinite = true)
    (reached : bound.number ≤ x.number + y.number) : bound.rank ≤ (x.add y).rank := by
  rcases add_cases x y left right with ⟨zero, nothing⟩ | ⟨steps, scale, some, _, whole, sum⟩
  · rw [zero] at reached
    have flat : (x.add y).rank = 0 := by simp [rank, nothing]
    have opposite := rank_nonneg (neg_finite finite) (by
      rw [neg_number]
      linarith)
    rw [neg_rank] at opposite
    omega
  · rw [whole] at reached
    rw [sum]
    exact le_ofSteps_rank bound finite steps scale some reached

/-- A sum below the next smaller significand of a value is not rounded to its size. -/
theorem add_magnitude_lt (bound : Binary64) (some : 0 < bound.significand)
    (nonneg : 0 ≤ x.number + y.number)
    (below : x.number + y.number ≤ (bound.significand - 1 : ℕ) * (2 : ℚ) ^ bound.exponent) :
    (x.add y).magnitude < bound.magnitude := by
  rcases add_cases x y left right with ⟨_, nothing⟩ | ⟨steps, scale, _, _, whole, sum⟩
  · rw [nothing, bound.magnitude_eq_parts]
    omega
  · have step : (0 : ℚ) < 2 ^ scale := by positivity
    rw [whole] at nonneg below
    have counted : (0 : ℚ) ≤ steps := nonneg_of_mul_nonneg_left nonneg step
    have size : steps * (2 : ℚ) ^ scale = (steps.natAbs : ℕ) * (2 : ℚ) ^ scale := by
      rw [Nat.cast_natAbs, abs_of_nonneg (by exact_mod_cast counted)]
    rw [size, dyadic_eq_quotient] at below
    rw [sum, ofSteps, (ofDyadic_negative _ _ _).1]
    exact nearestMagnitude_lt bound some _ _ (Nat.pow_pos (by omega)) below

/-- All numbers are multiples of the smallest one. -/
theorem add_grid : ∃ count : ℤ, x.number + y.number = count * (2 : ℚ) ^ (-1074 : ℤ) := by
  rcases add_cases x y left right with ⟨zero, _⟩ | ⟨steps, scale, _, least, whole, _⟩
  · exact ⟨0, by simp [zero]⟩
  · obtain ⟨finer, rfl⟩ : ∃ finer : ℕ, scale = finer + -1074 := ⟨(scale + 1074).toNat, by omega⟩
    refine ⟨steps * 2 ^ finer, ?_⟩
    rw [whole, zpow_add₀ two_ne_zero, zpow_natCast, Int.cast_mul, Int.cast_pow, Int.cast_ofNat,
      mul_assoc]

theorem add_not_nan : (x.add y).isNaN = false := by
  have top : (x.add y).magnitude ≤ infiniteMagnitude := by
    rcases add_cases x y left right with ⟨_, nothing⟩ | ⟨steps, scale, _, _, _, sum⟩
    · omega
    · rw [sum, ofSteps, (ofDyadic_negative _ _ _).1]
      exact nearestMagnitude_le_infinite _ _
  simpa [isNaN] using top

end

/-- A span between two ends is not negative. -/
theorem sub_rank_nonneg {low high : Binary64} (atLow : low.isFinite = true)
    (atHigh : high.isFinite = true) (ordered : low.rank ≤ high.rank) :
    0 ≤ (high.sub low).rank := by
  have numbers := number_le_of_rank_le atLow atHigh ordered
  have reached : zero.number ≤ high.number + low.neg.number := by
    rw [number_eq_zero (x := zero) (by decide), neg_number]
    linarith
  have above := le_add_rank high low.neg atHigh (neg_finite atLow) zero (by decide) reached
  rwa [show zero.rank = 0 from by decide] at above

/-- A rounded span of the smallest exponent is not larger than the exact one. -/
theorem sub_size_le {low high : Binary64} (atLow : low.isFinite = true)
    (atHigh : high.isFinite = true) (nonneg : low.number ≤ high.number)
    (bottom : (high.sub low).exponent = -1074) :
    (high.sub low).size ≤ high.number - low.number := by
  have whole : high.number + low.neg.number = high.number - low.number := by
    rw [neg_number, sub_eq_add_neg]
  obtain ⟨count, multiple⟩ := add_grid high low.neg atHigh (neg_finite atLow)
  rw [whole] at multiple
  have step : (0 : ℚ) < 2 ^ (-1074 : ℤ) := by positivity
  by_contra larger
  rw [size, bottom, multiple] at larger
  -- The exact span is on the grid, so it misses a whole step of the rounded one.
  have fewer : count < (high.sub low).significand := by
    exact_mod_cast lt_of_mul_lt_mul_right (not_le.mp larger) step.le
  have counted : 0 ≤ count := by
    have : (0 : ℚ) ≤ count * 2 ^ (-1074 : ℤ) := by linarith
    exact_mod_cast nonneg_of_mul_nonneg_left this step
  have below : high.number + low.neg.number ≤
      ((high.sub low).significand - 1 : ℕ) * (2 : ℚ) ^ (high.sub low).exponent := by
    rw [whole, multiple, bottom]
    apply mul_le_mul_of_nonneg_right _ step.le
    rw [Nat.cast_sub (by omega), Nat.cast_one]
    have : (count : ℚ) + 1 ≤ (high.sub low).significand := by exact_mod_cast fewer
    linarith
  exact lt_irrefl _ (add_magnitude_lt high low.neg atHigh (neg_finite atLow) (high.sub low)
    (by omega) (by linarith) below)

/-! Fractions of a span. -/

theorem mul_swap (x y : Binary64) : x.mul y = y.mul x := by
  simp only [mul, bne_comm, Bool.or_comm, Bool.and_comm, Nat.mul_comm, Int.add_comm]

/-- A product of less than the next smaller significand is not rounded to the size of a value. -/
theorem mul_magnitude_lt (x y bound : Binary64) (left : x.isFinite = true)
    (right : y.isFinite = true) (some : 0 < bound.significand)
    (below : x.size * y.size ≤ (bound.significand - 1 : ℕ) * (2 : ℚ) ^ bound.exponent) :
    (x.mul y).magnitude < bound.magnitude := by
  rw [← size_mul_size, dyadic_eq_quotient] at below
  rw [mul_eq_ofDyadic x y left right, (ofDyadic_negative _ _ _).1]
  exact nearestMagnitude_lt bound some _ _ (Nat.pow_pos (by omega)) below

/-- A fraction that leaves off at least the last place of a significand. -/
structure IsProperFraction (x : Binary64) : Prop where
  isFraction : x.IsFraction
  short : x.size ≤ 1 - (2 : ℚ) ^ (-52 : ℤ)

namespace IsProperFraction

variable {fraction : Binary64} (proper : fraction.IsProperFraction)

include proper

/-- What such a fraction leaves of a full significand is at most the next smaller one. -/
theorem shrinks (x : Binary64) (full : 2 ^ 52 ≤ x.significand) :
    fraction.size * x.size ≤ (x.significand - 1 : ℕ) * (2 : ℚ) ^ x.exponent := by
  have step : (0 : ℚ) < 2 ^ x.exponent := by positivity
  have filled : (2 : ℚ) ^ (52 : ℤ) ≤ x.significand := by exact_mod_cast full
  have lost : (1 : ℚ) ≤ 2 ^ (-52 : ℤ) * x.significand := by
    calc (1 : ℚ) = 2 ^ (-52 : ℤ) * 2 ^ (52 : ℤ) := by norm_num
      _ ≤ 2 ^ (-52 : ℤ) * x.significand := by gcongr
  rw [Nat.cast_sub (by omega), Nat.cast_one]
  calc fraction.size * x.size ≤ (1 - 2 ^ (-52 : ℤ)) * x.size := by
        gcongr
        · exact x.size_nonneg
        · exact proper.short
    _ = (x.significand - 2 ^ (-52 : ℤ) * x.significand) * 2 ^ x.exponent := by
        rw [size]
        ring
    _ ≤ (x.significand - 1) * 2 ^ x.exponent := by gcongr

variable {low high : Binary64} (atLow : low.isFinite = true) (atHigh : high.isFinite = true)
  (ordered : low.rank ≤ high.rank) (spanned : (high.sub low).isFinite = true)

include atLow atHigh ordered spanned

/-- The fraction of a span ranks between zero and the span. -/
theorem mul_rank_bounds : 0 ≤ (fraction.mul (high.sub low)).rank ∧
    (fraction.mul (high.sub low)).rank ≤ (high.sub low).rank := by
  have upward := sub_rank_nonneg atLow atHigh ordered
  obtain ⟨_, least, most⟩ := mul_fraction (high.sub low) fraction spanned proper.isFraction
  rw [mul_swap fraction]
  omega

/-- The span of a range is rounded, and so is the fraction of it. Had the two
roundings led beyond the exact span, the fraction would have the size of the
rounded span; but a full significand is shortened by the fraction, and a span
with any other is exact. -/
theorem within_span :
    (fraction.mul (high.sub low)).isFinite = true ∧ 0 ≤ (fraction.mul (high.sub low)).number ∧
      (fraction.mul (high.sub low)).number ≤ high.number - low.number := by
  have ends := number_le_of_rank_le atLow atHigh ordered
  obtain ⟨least, most⟩ := proper.mul_rank_bounds atLow atHigh ordered spanned
  have own := magnitude_of_rank_nonneg least
  have full := magnitude_of_rank_nonneg (least.trans most)
  have finite : (fraction.mul (high.sub low)).isFinite = true := by
    simp only [isFinite, decide_eq_true_eq] at spanned ⊢
    omega
  rw [number_of_rank_nonneg least]
  refine ⟨finite, size_nonneg _, ?_⟩
  -- A product beyond the span would be rounded to no less than the rounded span.
  by_contra beyond
  have reached : (high.sub low).rank ≤ (fraction.mul (high.sub low)).rank := by
    apply add_rank_le high low.neg atHigh (neg_finite atLow) _ finite
    rw [neg_number, number_of_rank_nonneg least]
    linarith
  have same : (fraction.mul (high.sub low)).magnitude = (high.sub low).magnitude := by omega
  rcases (high.sub low).significand_full with filled | bottom
  · have shortened := mul_magnitude_lt fraction _ (high.sub low) proper.isFraction.isFinite spanned
      (by omega) (proper.shrinks _ filled)
    omega
  · rw [size_congr same] at beyond
    exact beyond (sub_size_le atLow atHigh ends bottom)

/-- A value at a proper fraction of the span above the lower end lies in the range. -/
theorem between : low.atMost ((fraction.mul (high.sub low)).add low) = true ∧
    ((fraction.mul (high.sub low)).add low).atMost high = true := by
  obtain ⟨finite, above, below⟩ := proper.within_span atLow atHigh ordered spanned
  have number := add_not_nan _ low finite atLow
  have lower := le_add_rank _ low finite atLow low atLow (by linarith)
  have upper := add_rank_le _ low finite atLow high atHigh (by linarith)
  simp [atMost, number, finite_not_nan atLow, finite_not_nan atHigh, lower, upper]

end IsProperFraction

end Asn1Constraints.Binary64
