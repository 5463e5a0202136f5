import Asn1Constraints.Binary64.Arithmetic
import Mathlib

/-!
Rounding never carries a quotient past a representable value. From this follow
the two facts about arithmetic that drawing a real rests on: a product with a
fraction lies between zero and the other factor, and the difference of two
values of one sign is finite.
-/

namespace Asn1Constraints.Binary64

theorem two_zpow_eq_quotient (exponent : Int) :
    (2 : ℚ) ^ exponent = (Nat.pow 2 exponent.toNat : ℕ) / (Nat.pow 2 (-exponent).toNat : ℕ) := by
  rcases Int.le_total 0 exponent with nonneg | nonpos
  · obtain ⟨n, rfl⟩ := Int.eq_ofNat_of_zero_le nonneg
    simp
  · obtain ⟨n, rfl⟩ : ∃ n : ℕ, exponent = -n := ⟨(-exponent).toNat, by omega⟩
    simp

/-- A quotient compared with a power of two by the products on either side. -/
theorem mul_lt_mul_iff_quotient (num den : ℕ) (positive : 0 < den) (exponent : Int) :
    num * Nat.pow 2 (-exponent).toNat < den * Nat.pow 2 exponent.toNat ↔
      (num / den : ℚ) < (2 : ℚ) ^ exponent := by
  have below : (0 : ℚ) < (Nat.pow 2 (-exponent).toNat : ℕ) := by simp
  have base : (0 : ℚ) < den := by exact_mod_cast positive
  rw [two_zpow_eq_quotient, div_lt_div_iff₀ base below, mul_comm den]
  exact_mod_cast Iff.rfl

theorem binaryScale_bounds (num den : ℕ) (some : 0 < num) (positive : 0 < den) :
    (2 : ℚ) ^ binaryScale num den ≤ num / den ∧ (num / den : ℚ) < 2 ^ (binaryScale num den + 1) := by
  have base : (0 : ℚ) < den := by exact_mod_cast positive
  have numLow : (2 : ℚ) ^ (num.log2 : ℤ) ≤ num := by
    exact_mod_cast Nat.log2_self_le some.ne'
  have numHigh : (num : ℚ) < 2 ^ ((num.log2 : ℤ) + 1) := by
    exact_mod_cast Nat.lt_log2_self
  have denLow : (2 : ℚ) ^ (den.log2 : ℤ) ≤ den := by
    exact_mod_cast Nat.log2_self_le positive.ne'
  have denHigh : (den : ℚ) < 2 ^ ((den.log2 : ℤ) + 1) := by
    exact_mod_cast Nat.lt_log2_self
  have low : (2 : ℚ) ^ ((num.log2 : ℤ) - den.log2 - 1) ≤ num / den := by
    rw [le_div_iff₀ base]
    calc (2 : ℚ) ^ ((num.log2 : ℤ) - den.log2 - 1) * den
        ≤ 2 ^ ((num.log2 : ℤ) - den.log2 - 1) * 2 ^ ((den.log2 : ℤ) + 1) := by gcongr
      _ = 2 ^ (num.log2 : ℤ) := by rw [← zpow_add₀ two_ne_zero]; congr 1; ring
      _ ≤ num := numLow
  have high : (num / den : ℚ) < 2 ^ ((num.log2 : ℤ) - den.log2 + 1) := by
    rw [div_lt_iff₀ base]
    calc (num : ℚ) < 2 ^ ((num.log2 : ℤ) + 1) := numHigh
      _ = 2 ^ ((num.log2 : ℤ) - den.log2 + 1) * 2 ^ (den.log2 : ℤ) := by
          rw [← zpow_add₀ two_ne_zero]; congr 1; ring
      _ ≤ 2 ^ ((num.log2 : ℤ) - den.log2 + 1) * den := by gcongr
  have compared := mul_lt_mul_iff_quotient num den positive ((num.log2 : ℤ) - den.log2)
  unfold binaryScale
  simp only
  split
  · rename_i smaller
    refine ⟨low, ?_⟩
    rw [Int.sub_add_cancel]
    exact compared.mp smaller
  · rename_i larger
    exact ⟨not_lt.mp fun smaller => larger (compared.mpr smaller), high⟩

theorem roundHalfEven_le (num den bound : ℕ) (positive : 0 < den) (below : num ≤ bound * den) :
    roundHalfEven num den ≤ bound := by
  have quotient : num / den ≤ bound := Nat.div_le_of_le_mul (by rwa [mul_comm])
  rcases Nat.lt_or_eq_of_le quotient with strict | same
  · unfold roundHalfEven
    simp only
    split <;> omega
  · -- The quotient can only be the bound itself if nothing is left over.
    have exact : num % den = 0 := by
      have parts := Nat.div_add_mod num den
      rw [same, mul_comm] at parts
      omega
    simp [roundHalfEven, exact, same, positive.ne]

/-- On the grid of step `2 ^ scale` the quotient is rounded to at most any count
of steps that is enough. -/
theorem roundHalfEven_grid_le (num den bound : ℕ) (positive : 0 < den) (scale : Int)
    (enough : (num / den : ℚ) ≤ bound * (2 : ℚ) ^ scale) :
    roundHalfEven (num * Nat.pow 2 (-scale).toNat) (den * Nat.pow 2 scale.toNat) ≤ bound := by
  have base : (0 : ℚ) < den := by exact_mod_cast positive
  have step : (0 : ℚ) < (Nat.pow 2 (-scale).toNat : ℕ) := by simp
  rw [two_zpow_eq_quotient, mul_div_assoc', div_le_div_iff₀ base step] at enough
  have products : num * Nat.pow 2 (-scale).toNat ≤ bound * Nat.pow 2 scale.toNat * den := by
    exact_mod_cast enough
  apply roundHalfEven_le _ _ _ (Nat.mul_pos positive (Nat.pow_pos (by omega)))
  calc num * Nat.pow 2 (-scale).toNat ≤ bound * Nat.pow 2 scale.toNat * den := products
    _ = bound * (den * Nat.pow 2 scale.toNat) := by ring

/-- A value whose significand fills its place, or that is at the smallest scale,
is an upper bound of what is rounded from below it. -/
theorem nearestMagnitude_le (num den : ℕ) (positive : 0 < den) (significand : ℕ) (exponent : Int)
    (least : -1074 ≤ exponent) (short : significand < 2 ^ 53)
    (full : 2 ^ 52 ≤ significand ∨ exponent = -1074)
    (below : (num / den : ℚ) ≤ significand * (2 : ℚ) ^ exponent) :
    nearestMagnitude num den ≤ (exponent + 1074).toNat * exponentUnit + significand := by
  unfold nearestMagnitude
  split
  · exact Nat.zero_le _
  · rename_i some
    obtain ⟨low, high⟩ := binaryScale_bounds num den (Nat.pos_of_ne_zero some) positive
    simp only
    generalize scaled : max (binaryScale num den - 52) (-1074) = scale
    refine le_trans (Nat.min_le_left _ _) ?_
    have rounded := fun bound => roundHalfEven_grid_le num den bound positive scale
    have significandBound : (significand : ℚ) < 2 ^ (53 : ℤ) := by exact_mod_cast short
    rcases lt_trichotomy scale exponent with finer | same | coarser
    · -- On a finer grid even a carry ends at the next exponent, where the value is or beyond.
      have filled : 2 ^ 52 ≤ significand := full.resolve_right (by omega)
      have carried := rounded (2 ^ 53) <| by
        have top : binaryScale num den + 1 ≤ 53 + scale := by omega
        calc (num / den : ℚ) ≤ 2 ^ (binaryScale num den + 1) := high.le
          _ ≤ 2 ^ (53 + scale) := zpow_le_zpow_right₀ (by norm_num) top
          _ = ((2 ^ 53 : ℕ) : ℚ) * 2 ^ scale := by rw [zpow_add₀ two_ne_zero]; norm_num
      have steps : (scale + 1074).toNat + 1 ≤ (exponent + 1074).toNat := by omega
      have room := Nat.mul_le_mul_right exponentUnit steps
      simp only [exponentUnit] at *
      omega
    · -- On its own grid the value is the count of steps that is enough.
      subst same
      exact Nat.add_le_add_left (rounded significand below) _
    · -- A coarser grid would mean that the quotient is larger than the bound.
      have top : exponent + 53 ≤ binaryScale num den := by omega
      have beyond : (num / den : ℚ) < num / den := calc
        (num / den : ℚ) ≤ significand * (2 : ℚ) ^ exponent := below
        _ < 2 ^ (53 : ℤ) * 2 ^ exponent := by gcongr
        _ = 2 ^ (exponent + 53) := by rw [← zpow_add₀ two_ne_zero, add_comm]
        _ ≤ 2 ^ binaryScale num den := zpow_le_zpow_right₀ (by norm_num) top
        _ ≤ num / den := low
      exact absurd beyond (lt_irrefl _)

/-! Values by their parts. -/

/-- The absolute value that a bit pattern stands for. -/
def size (x : Binary64) : ℚ := x.significand * (2 : ℚ) ^ x.exponent

theorem magnitude_eq_parts (x : Binary64) :
    x.magnitude = (x.exponent + 1074).toNat * exponentUnit + x.significand := by
  have parts := Nat.div_add_mod x.magnitude exponentUnit
  unfold exponent significand
  split
  · simp
  · rename_i some
    unfold exponentField at some ⊢
    simp only [exponentUnit] at *
    omega

theorem significand_lt (x : Binary64) : x.significand < 2 ^ 53 := by
  have small := Nat.mod_lt x.magnitude (show 0 < exponentUnit by decide)
  have parts := Nat.div_add_mod x.magnitude exponentUnit
  unfold significand exponentField
  split
  · rename_i none
    rw [none] at parts
    simp only [exponentUnit] at *
    omega
  · simp only [exponentUnit] at *
    omega

theorem significand_full (x : Binary64) : 2 ^ 52 ≤ x.significand ∨ x.exponent = -1074 := by
  unfold significand exponent
  split
  · exact .inr rfl
  · exact .inl (by simp only [exponentUnit]; omega)

theorem least_exponent (x : Binary64) : -1074 ≤ x.exponent := by
  unfold exponent
  split <;> omega

/-- Nothing that is at most a value is rounded to more than the value. -/
theorem nearestMagnitude_le_magnitude (x : Binary64) (num den : ℕ) (positive : 0 < den)
    (below : (num / den : ℚ) ≤ x.size) : nearestMagnitude num den ≤ x.magnitude := by
  rw [magnitude_eq_parts x]
  exact nearestMagnitude_le num den positive x.significand x.exponent x.least_exponent
    x.significand_lt x.significand_full below

theorem magnitude_lt (x : Binary64) : x.magnitude < signBit := Nat.mod_lt _ (by decide)

theorem ofParts_parts (negative : Bool) (magnitude : ℕ) (small : magnitude < signBit) :
    (ofParts negative magnitude).magnitude = magnitude ∧
      (ofParts negative magnitude).negative = negative := by
  cases negative <;>
    simp [ofParts, Binary64.magnitude, Binary64.negative, signBit] at * <;> omega

theorem finite_not_nan {x : Binary64} (finite : x.isFinite = true) : x.isNaN = false := by
  simp [isFinite, isNaN] at *
  omega

/-- The value of a significand at a scale, as the quotient that is rounded. -/
theorem dyadic_eq_quotient (significand : ℕ) (exponent : Int) :
    (significand * (2 : ℚ) ^ exponent) =
      ((significand * Nat.pow 2 exponent.toNat : ℕ) : ℚ) / (Nat.pow 2 (-exponent).toNat : ℕ) := by
  rw [two_zpow_eq_quotient, Nat.cast_mul, mul_div_assoc]

/-- Rounding something of at most the size of a value does not go beyond the value. -/
theorem ofDyadic_parts (x : Binary64) (negative : Bool) (significand : ℕ) (exponent : Int)
    (below : significand * (2 : ℚ) ^ exponent ≤ x.size) :
    (ofDyadic negative significand exponent).magnitude ≤ x.magnitude ∧
      (ofDyadic negative significand exponent).negative = negative := by
  rw [dyadic_eq_quotient] at below
  have rounded := nearestMagnitude_le_magnitude x _ _ (Nat.pow_pos (by omega)) below
  obtain ⟨magnitude, sign⟩ := ofParts_parts negative _ (rounded.trans_lt x.magnitude_lt)
  exact ⟨magnitude.trans_le rounded, sign⟩

/-! Products with a fraction. -/

theorem size_nonneg (x : Binary64) : 0 ≤ x.size := by
  unfold size
  positivity

/-- What is not above one in magnitude is not above one as a number. -/
theorem size_le_one (x : Binary64) (below : x.magnitude ≤ one.magnitude) : x.size ≤ 1 := by
  have bound : one.magnitude = 1023 * exponentUnit := by decide
  have parts := x.magnitude_eq_parts
  have short : (x.significand : ℚ) < 2 ^ (53 : ℤ) := by exact_mod_cast x.significand_lt
  -- At a scale below that of one any significand will do, at its own only the least does.
  rcases Int.lt_or_le x.exponent (-52) with lower | upper
  · calc x.size ≤ 2 ^ (53 : ℤ) * (2 : ℚ) ^ (-53 : ℤ) := by
          unfold size
          gcongr
          · norm_num
          · omega
      _ = 1 := by norm_num
  · have full : 2 ^ 52 ≤ x.significand := x.significand_full.resolve_right (by omega)
    have units : (1022 : ℕ) ≤ (x.exponent + 1074).toNat := by omega
    simp only [exponentUnit] at *
    have exponent : x.exponent = -52 := by omega
    have significand : x.significand = 2 ^ 52 := by
      rw [exponent] at parts
      omega
    rw [size, exponent, significand]
    norm_num

theorem rank_of_not_negative {x : Binary64} (sign : x.negative = false) : x.rank = x.magnitude := by
  simp [rank, sign]

theorem rank_of_negative {x : Binary64} (sign : x.negative = true) : x.rank = -x.magnitude := by
  simp [rank, sign]

/-- A value that may stand for a probability. -/
def IsFraction (x : Binary64) : Prop := zero.atMost x = true ∧ x.atMost one = true

theorem IsFraction.rank_bounds {x : Binary64} (fraction : x.IsFraction) :
    0 ≤ x.rank ∧ x.rank ≤ one.magnitude := by
  have zeroRank : zero.rank = 0 := by decide
  have oneRank : one.rank = one.magnitude := by decide
  obtain ⟨low, high⟩ := fraction
  simp only [atMost, zeroRank, oneRank, Bool.and_eq_true, decide_eq_true_eq] at low high
  exact ⟨low.2, high.2⟩

theorem IsFraction.magnitude_le {x : Binary64} (fraction : x.IsFraction) :
    x.magnitude ≤ one.magnitude := by
  obtain ⟨low, high⟩ := fraction.rank_bounds
  cases sign : x.negative with
  | false =>
      rw [rank_of_not_negative sign] at high
      omega
  | true =>
      rw [rank_of_negative sign] at low
      omega

theorem IsFraction.isFinite {x : Binary64} (fraction : x.IsFraction) : x.isFinite = true := by
  have oneFinite : one.magnitude < infiniteMagnitude := by decide
  have small := fraction.magnitude_le
  simp only [Binary64.isFinite, decide_eq_true_eq]
  omega

/-- A fraction with a sign can only be the other zero. -/
theorem IsFraction.size_of_negative {x : Binary64} (fraction : x.IsFraction)
    (sign : x.negative = true) : x.size = 0 := by
  have nonneg := fraction.rank_bounds.1
  rw [rank_of_negative sign] at nonneg
  have nothing : x.significand = 0 := by
    have parts := x.magnitude_eq_parts
    omega
  simp [size, nothing]

theorem mul_eq_ofDyadic (x y : Binary64) (left : x.isFinite = true) (right : y.isFinite = true) :
    x.mul y = ofDyadic (x.negative != y.negative) (x.significand * y.significand)
      (x.exponent + y.exponent) := by
  simp [mul, finite_not_nan left, finite_not_nan right, left, right]

theorem size_mul_size (x y : Binary64) :
    ((x.significand * y.significand : ℕ) : ℚ) * 2 ^ (x.exponent + y.exponent) =
      x.size * y.size := by
  rw [size, size, zpow_add₀ two_ne_zero, Nat.cast_mul]
  ring

/-- A product is of at most the size of any value that the exact product is not larger than. -/
theorem mul_parts (x y bound : Binary64) (left : x.isFinite = true) (right : y.isFinite = true)
    (below : x.size * y.size ≤ bound.size) :
    (x.mul y).magnitude ≤ bound.magnitude ∧ (x.mul y).negative = (x.negative != y.negative) := by
  rw [mul_eq_ofDyadic x y left right]
  exact ofDyadic_parts bound _ _ _ ((size_mul_size x y).trans_le below)

/-- A product with a fraction lies between zero and the other factor. -/
theorem mul_fraction (x fraction : Binary64) (finite : x.isFinite = true)
    (isFraction : fraction.IsFraction) :
    (x.mul fraction).isNaN = false ∧ min x.rank 0 ≤ (x.mul fraction).rank ∧
      (x.mul fraction).rank ≤ max x.rank 0 := by
  obtain ⟨shrinks, sign⟩ := mul_parts x fraction x finite isFraction.isFinite
    (mul_le_of_le_one_right x.size_nonneg (fraction.size_le_one isFraction.magnitude_le))
  have number : (x.mul fraction).isNaN = false := by
    apply finite_not_nan
    simp only [isFinite, decide_eq_true_eq] at finite ⊢
    omega
  refine ⟨number, ?_⟩
  -- A fraction with a sign is the other zero; any other keeps the sign of the factor.
  cases other : fraction.negative with
  | true =>
      obtain ⟨vanishes, _⟩ := mul_parts x fraction zero finite isFraction.isFinite
        (by simp [isFraction.size_of_negative other, zero.size_nonneg])
      rw [show zero.magnitude = 0 from by decide] at vanishes
      have rank : (x.mul fraction).rank = 0 := by simp [rank, Nat.le_zero.mp vanishes]
      omega
  | false =>
      rw [other, Bool.bne_false] at sign
      cases own : x.negative with
      | false =>
          rw [rank_of_not_negative own, rank_of_not_negative (sign.trans own)]
          omega
      | true =>
          rw [rank_of_negative own, rank_of_negative (sign.trans own)]
          omega

/-! Differences. -/

theorem neg_parts (x : Binary64) : x.neg.magnitude = x.magnitude ∧ x.neg.negative = !x.negative :=
  ofParts_parts _ _ x.magnitude_lt

/-- At a scale not above its exponent a value keeps its size. -/
theorem scaledInt_size (x : Binary64) (scale : Int) (fine : scale ≤ x.exponent) :
    ((x.scaledInt scale).natAbs : ℚ) * 2 ^ scale = x.size := by
  have steps : ((x.exponent - scale).toNat : Int) = x.exponent - scale := by omega
  have absolute : (x.scaledInt scale).natAbs =
      x.significand * 2 ^ (x.exponent - scale).toNat := by
    unfold scaledInt
    split <;> simp [Int.natAbs_mul, Int.natAbs_pow]
  have power : (2 : ℚ) ^ (x.exponent - scale).toNat = 2 ^ (x.exponent - scale) := by
    rw [← steps]
    exact (zpow_natCast 2 _).symm
  rw [absolute, Nat.cast_mul, Nat.cast_pow, Nat.cast_ofNat, power, mul_assoc,
    ← zpow_add₀ two_ne_zero, size]
  congr 2
  ring

theorem scaledInt_sign (x : Binary64) (scale : Int) :
    if x.negative then x.scaledInt scale ≤ 0 else 0 ≤ x.scaledInt scale := by
  unfold scaledInt
  split <;> simp

/-- The difference of finite values of one sign is finite. -/
theorem sub_finite (x y : Binary64) (left : x.isFinite = true) (right : y.isFinite = true)
    (same : x.negative = y.negative) : (x.sub y).isFinite = true := by
  obtain ⟨magnitude, sign⟩ := y.neg_parts
  have flipped : y.neg.isFinite = true := by simpa [isFinite, magnitude] using right
  have difference : x.sub y = addFinite x y.neg := by
    simp [sub, add, finite_not_nan left, finite_not_nan flipped, left, flipped]
  rw [difference]
  unfold addFinite
  simp only
  generalize scaled : min x.exponent y.neg.exponent = scale
  have first := x.scaledInt_size scale (by omega)
  have second := y.neg.scaledInt_size scale (by omega)
  have signs := x.scaledInt_sign scale
  have others := y.neg.scaledInt_sign scale
  rw [sign, ← same] at others
  split
  · have small : 0 < signBit := by decide
    simp [isFinite, (ofParts_parts _ 0 small).1, infiniteMagnitude]
  · -- Of two values of opposite signs the sum is at most the larger one in size.
    have step : (0 : ℚ) ≤ 2 ^ scale := by positivity
    have absorbed : ∀ n : ℕ, (x.scaledInt scale + y.neg.scaledInt scale).natAbs ≤ n →
        ((x.scaledInt scale + y.neg.scaledInt scale).natAbs : ℚ) * 2 ^ scale ≤ n * 2 ^ scale :=
      fun n enough => mul_le_mul_of_nonneg_right (by exact_mod_cast enough) step
    have larger : (x.scaledInt scale + y.neg.scaledInt scale).natAbs ≤ (x.scaledInt scale).natAbs ∨
        (x.scaledInt scale + y.neg.scaledInt scale).natAbs ≤ (y.neg.scaledInt scale).natAbs := by
      cases own : x.negative <;> simp only [own] at signs others <;> simp at signs others <;> omega
    simp only [isFinite, decide_eq_true_eq] at left flipped ⊢
    rcases larger with enough | enough
    · exact ((ofDyadic_parts x _ _ _ ((absorbed _ enough).trans_eq first)).1).trans_lt left
    · exact ((ofDyadic_parts y.neg _ _ _ ((absorbed _ enough).trans_eq second)).1).trans_lt flipped

/-- Zero lies between values whose difference is not finite. -/
theorem zero_between_of_wide (x y : Binary64) (left : x.isFinite = true) (right : y.isFinite = true)
    (ordered : x.rank ≤ y.rank) (wide : (y.sub x).isFinite = false) : x.rank ≤ 0 ∧ 0 ≤ y.rank := by
  have apart : y.negative ≠ x.negative := by
    intro same
    simp [sub_finite y x right left same] at wide
  unfold rank at ordered ⊢
  cases low : x.negative <;> cases high : y.negative <;> simp_all
  omega

end Asn1Constraints.Binary64
