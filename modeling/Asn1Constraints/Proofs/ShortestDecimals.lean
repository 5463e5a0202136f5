import Asn1Constraints.Binary64.Decimal
import Asn1Constraints.Proofs.RoundedMagnitudes
import Mathlib

/-!
The shortest decimal of a value reads back as the value. Rounding looks at the
quotient alone, so it does not matter how the zeros of a decimal are divided
between its digits and its exponent. A value is its own rounding, which settles
the exact decimal; a shorter one has been read back before it is taken.
-/

namespace Asn1Constraints

namespace Binary64

theorem binaryScale_eq (num den : ℕ) (some : 0 < num) (positive : 0 < den) (scale : Int)
    (low : (2 : ℚ) ^ scale ≤ num / den) (high : (num / den : ℚ) < 2 ^ (scale + 1)) :
    binaryScale num den = scale := by
  obtain ⟨least, most⟩ := binaryScale_bounds num den some positive
  have above := (zpow_lt_zpow_iff_right₀ (one_lt_two : (1 : ℚ) < 2)).mp (low.trans_lt most)
  have below := (zpow_lt_zpow_iff_right₀ (one_lt_two : (1 : ℚ) < 2)).mp (least.trans_lt high)
  omega

theorem quotient_scale (num den factor : ℕ) (some : 0 < factor) :
    ((num * factor : ℕ) / (den * factor : ℕ) : ℚ) = num / den := by
  push_cast
  exact mul_div_mul_right _ _ (by exact_mod_cast some.ne')

theorem roundHalfEven_scale (num den factor : ℕ) (some : 0 < factor) :
    roundHalfEven (num * factor) (den * factor) = roundHalfEven num den := by
  have above : den * factor < 2 * (num % den * factor) ↔ den < 2 * (num % den) := by
    rw [← mul_assoc]
    exact Nat.mul_lt_mul_right some
  have tied : 2 * (num % den * factor) = den * factor ↔ 2 * (num % den) = den := by
    rw [← mul_assoc]
    exact Nat.mul_left_inj some.ne'
  simp only [roundHalfEven, Nat.mul_div_mul_right _ _ some, Nat.mul_mod_mul_right, above,
    beq_iff_eq, tied, Bool.or_eq_true, Bool.and_eq_true, decide_eq_true_eq]

theorem nearestMagnitude_scale (num den factor : ℕ) (positive : 0 < den) (some : 0 < factor) :
    nearestMagnitude (num * factor) (den * factor) = nearestMagnitude num den := by
  rcases Nat.eq_zero_or_pos num with rfl | present
  · simp [nearestMagnitude]
  · have scale : binaryScale (num * factor) (den * factor) = binaryScale num den := by
      obtain ⟨low, high⟩ := binaryScale_bounds num den present positive
      apply binaryScale_eq _ _ (Nat.mul_pos present some) (Nat.mul_pos positive some)
      · rwa [quotient_scale _ _ _ some]
      · rwa [quotient_scale _ _ _ some]
    have grown : num * factor ≠ 0 := (Nat.mul_pos present some).ne'
    simp only [nearestMagnitude, if_neg grown, if_neg present.ne', scale]
    rw [mul_right_comm num, mul_right_comm den, roundHalfEven_scale _ _ _ some]

/-- Equal quotients are rounded alike. -/
theorem nearestMagnitude_congr (num den other base : ℕ) (positive : 0 < den) (some : 0 < base)
    (same : num * base = other * den) : nearestMagnitude num den = nearestMagnitude other base := by
  calc nearestMagnitude num den
      = nearestMagnitude (num * base) (den * base) :=
        (nearestMagnitude_scale num den base positive some).symm
    _ = nearestMagnitude (other * den) (base * den) := by rw [same, mul_comm den base]
    _ = nearestMagnitude other base := nearestMagnitude_scale other base den some positive

/-! The ends of the range. -/

theorem le_roundHalfEven (num den bound : ℕ) (positive : 0 < den) (above : bound * den ≤ num) :
    bound ≤ roundHalfEven num den := by
  have quotient : bound ≤ num / den := (Nat.le_div_iff_mul_le positive).mpr above
  unfold roundHalfEven
  simp only
  split <;> omega

/-- On the grid of step `2 ^ scale` the quotient is rounded to at least any count
of steps that it reaches. -/
theorem le_roundHalfEven_grid (num den bound : ℕ) (positive : 0 < den) (scale : Int)
    (reached : (bound * (2 : ℚ) ^ scale) ≤ num / den) :
    bound ≤ roundHalfEven (num * Nat.pow 2 (-scale).toNat) (den * Nat.pow 2 scale.toNat) := by
  have base : (0 : ℚ) < den := by exact_mod_cast positive
  have step : (0 : ℚ) < (Nat.pow 2 (-scale).toNat : ℕ) := by simp
  rw [two_zpow_eq_quotient, mul_div_assoc', div_le_div_iff₀ step base] at reached
  apply le_roundHalfEven _ _ _ (Nat.mul_pos positive (Nat.pow_pos (by omega)))
  calc bound * (den * Nat.pow 2 scale.toNat) = bound * Nat.pow 2 scale.toNat * den := by ring
    _ ≤ num * Nat.pow 2 (-scale).toNat := by exact_mod_cast reached

/-- On a scale that is 52 below that of the quotient, the significand fills its place. -/
theorem significand_fills (num den : ℕ) (positive : 0 < den) {scale : Int}
    (scaled : binaryScale num den = 52 + scale)
    (low : (2 : ℚ) ^ binaryScale num den ≤ num / den) :
    2 ^ 52 ≤ roundHalfEven (num * Nat.pow 2 (-scale).toNat) (den * Nat.pow 2 scale.toNat) := by
  apply le_roundHalfEven_grid _ _ _ positive
  calc ((2 ^ 52 : ℕ) : ℚ) * (2 : ℚ) ^ scale = 2 ^ binaryScale num den := by
        rw [scaled, zpow_add₀ two_ne_zero]
        norm_num
    _ ≤ num / den := low

theorem nearestMagnitude_huge (num den : ℕ) (positive : 0 < den)
    (huge : (2 : ℚ) ^ (1024 : ℤ) ≤ num / den) : nearestMagnitude num den = infiniteMagnitude := by
  have some : 0 < num := by
    rcases Nat.eq_zero_or_pos num with rfl | present
    · exact absurd huge (by norm_num)
    · exact present
  obtain ⟨low, high⟩ := binaryScale_bounds num den some positive
  have large := (zpow_lt_zpow_iff_right₀ (one_lt_two : (1 : ℚ) < 2)).mp (huge.trans_lt high)
  have scaled : max (binaryScale num den - 52) (-1074) = binaryScale num den - 52 := by omega
  simp only [nearestMagnitude, if_neg some.ne', scaled]
  generalize scaleEq : binaryScale num den - 52 = scale at *
  -- The significand fills its place, so the exponent field alone is that of infinity.
  have placed : binaryScale num den = 52 + scale := by omega
  have full := significand_fills num den positive placed low
  have units : 2046 * exponentUnit ≤ (scale + 1074).toNat * exponentUnit :=
    Nat.mul_le_mul_right _ (by omega)
  have top : infiniteMagnitude = 2046 * exponentUnit + 2 ^ 52 := by decide
  omega

/-- Less than half a step above zero is rounded down. -/
theorem roundHalfEven_tiny (num den : ℕ) (tiny : 2 * num < den) : roundHalfEven num den = 0 := by
  have remainder : num % den = num := Nat.mod_eq_of_lt (by omega)
  have quotient : num / den = 0 := Nat.div_eq_of_lt (by omega)
  simp only [roundHalfEven, remainder, quotient]
  rw [if_neg]
  simp only [Bool.or_eq_true, Bool.and_eq_true, decide_eq_true_eq, beq_iff_eq]
  omega

theorem nearestMagnitude_tiny (num den : ℕ) (positive : 0 < den)
    (tiny : ((2 * num : ℕ) / den : ℚ) < (2 : ℚ) ^ (-1074 : ℤ)) : nearestMagnitude num den = 0 := by
  rcases Nat.eq_zero_or_pos num with rfl | some
  · simp [nearestMagnitude]
  · obtain ⟨low, _⟩ := binaryScale_bounds num den some positive
    have smaller : (num / den : ℚ) ≤ (2 * num : ℕ) / den := by
      gcongr
      omega
    have small := (zpow_lt_zpow_iff_right₀ (one_lt_two : (1 : ℚ) < 2)).mp
      (low.trans_lt (smaller.trans_lt tiny))
    have scaled : max (binaryScale num den - 52) (-1074) = -1074 := by omega
    have half := (mul_lt_mul_iff_quotient (2 * num) den positive (-1074)).mpr tiny
    rw [mul_assoc] at half
    simp only [nearestMagnitude, if_neg some.ne', scaled, roundHalfEven_tiny _ _ half]
    rfl

/-- Three binary places to one decimal place, which is less than there are. -/
theorem two_zpow_le_ten_pow (places : ℕ) : (2 : ℚ) ^ (3 * (places : ℤ)) ≤ 10 ^ places := by
  calc (2 : ℚ) ^ (3 * (places : ℤ)) = 8 ^ places := by
        rw [zpow_mul, zpow_natCast]
        norm_num
    _ ≤ 10 ^ places := by gcongr; norm_num

/-- The exponents that are cut off settle the answer as rounding does. -/
theorem nearestDecimal_eq (digits : ℕ) (exponent : Int) :
    nearestDecimal digits exponent =
      nearestMagnitude (digits * Nat.pow 10 exponent.toNat) (Nat.pow 10 (-exponent).toNat) := by
  unfold nearestDecimal
  split
  · rename_i none
    simp [nearestMagnitude, none]
  · rename_i some
    split
    -- So large an exponent makes even a single digit infinite.
    · rename_i large
      obtain ⟨places, rfl⟩ : ∃ places : ℕ, exponent = places := ⟨exponent.toNat, by omega⟩
      have whole : (1 : ℚ) ≤ digits := by exact_mod_cast Nat.one_le_iff_ne_zero.mpr some
      symm
      apply nearestMagnitude_huge _ _ (Nat.pow_pos (by omega))
      simp only [Int.toNat_natCast, Int.toNat_neg_natCast, Nat.pow_eq, pow_zero, Nat.cast_one,
        div_one, Nat.cast_mul, Nat.cast_pow, Nat.cast_ofNat]
      calc (2 : ℚ) ^ (1024 : ℤ) ≤ 2 ^ (3 * (places : ℤ)) :=
            zpow_le_zpow_right₀ one_le_two (by omega)
        _ ≤ 10 ^ places := two_zpow_le_ten_pow places
        _ ≤ digits * 10 ^ places := le_mul_of_one_le_left (by positivity) whole
    · split
      -- So small an exponent leaves even all the digits below half the least value.
      · rename_i small
        obtain ⟨places, rfl⟩ : ∃ places : ℕ, exponent = -places := ⟨(-exponent).toNat, by omega⟩
        have short : (digits : ℚ) < 2 ^ ((digits.log2 : ℤ) + 1) := by
          exact_mod_cast Nat.lt_log2_self
        symm
        apply nearestMagnitude_tiny _ _ (Nat.pow_pos (by omega))
        simp only [neg_neg, Int.toNat_natCast, Int.toNat_neg_natCast, Nat.pow_eq, pow_zero, mul_one,
          Nat.cast_mul, Nat.cast_pow, Nat.cast_ofNat]
        calc (2 * digits / 10 ^ places : ℚ)
            ≤ 2 * digits / 2 ^ (3 * (places : ℤ)) := by
              gcongr
              exact two_zpow_le_ten_pow places
          _ < 2 * 2 ^ ((digits.log2 : ℤ) + 1) / 2 ^ (3 * (places : ℤ)) := by gcongr
          _ = 2 ^ (1 + ((digits.log2 : ℤ) + 1) - 3 * places) := by
              rw [zpow_sub₀ two_ne_zero, zpow_add₀ two_ne_zero 1, zpow_one]
          _ ≤ 2 ^ (-1074 : ℤ) := zpow_le_zpow_right₀ one_le_two (by omega)
      · rfl

/-- Zeros at the end of the digits are as good as a larger exponent. -/
theorem nearestDecimal_zeros (digits zeros : ℕ) (exponent : Int) :
    nearestDecimal (digits * 10 ^ zeros) exponent = nearestDecimal digits (exponent + zeros) := by
  rw [nearestDecimal_eq, nearestDecimal_eq]
  apply nearestMagnitude_congr _ _ _ _ (Nat.pow_pos (by omega)) (Nat.pow_pos (by omega))
  simp only [Nat.pow_eq]
  have places : zeros + exponent.toNat + (-(exponent + zeros)).toNat =
      (exponent + zeros).toNat + (-exponent).toNat := by omega
  calc digits * 10 ^ zeros * 10 ^ exponent.toNat * 10 ^ (-(exponent + zeros)).toNat
      = digits * 10 ^ (zeros + exponent.toNat + (-(exponent + zeros)).toNat) := by ring
    _ = digits * 10 ^ (exponent + zeros).toNat * 10 ^ (-exponent).toNat := by rw [places]; ring

/-! A value is its own rounding. -/

theorem denominator_pos (x : Binary64) : 0 < x.denominator := Nat.pow_pos (by omega)

theorem size_eq_quotient (x : Binary64) : x.size = x.numerator / x.denominator :=
  dyadic_eq_quotient x.significand x.exponent

theorem scale_of_value (x : Binary64) (some : 0 < x.significand) :
    max (binaryScale x.numerator x.denominator - 52) (-1074) = x.exponent := by
  have positive : 0 < x.numerator := Nat.mul_pos some (Nat.pow_pos (by omega))
  obtain ⟨low, high⟩ := binaryScale_bounds x.numerator x.denominator positive x.denominator_pos
  rw [← size_eq_quotient] at low high
  have step : (0 : ℚ) < 2 ^ x.exponent := by positivity
  have top : binaryScale x.numerator x.denominator < 53 + x.exponent := by
    apply (zpow_lt_zpow_iff_right₀ (one_lt_two : (1 : ℚ) < 2)).mp
    calc (2 : ℚ) ^ binaryScale x.numerator x.denominator ≤ x.significand * 2 ^ x.exponent := low
      _ < 2 ^ (53 : ℤ) * 2 ^ x.exponent := by
          gcongr
          exact_mod_cast x.significand_lt
      _ = 2 ^ (53 + x.exponent) := (zpow_add₀ two_ne_zero _ _).symm
  have least := x.least_exponent
  -- A significand that fills its place fixes the scale; any other has the least exponent.
  rcases x.significand_full with full | subnormal
  · have bottom : 52 + x.exponent < binaryScale x.numerator x.denominator + 1 := by
      apply (zpow_lt_zpow_iff_right₀ (one_lt_two : (1 : ℚ) < 2)).mp
      calc (2 : ℚ) ^ (52 + x.exponent) = 2 ^ (52 : ℤ) * 2 ^ x.exponent := zpow_add₀ two_ne_zero _ _
        _ ≤ x.significand * 2 ^ x.exponent := by
            gcongr
            exact_mod_cast full
        _ < 2 ^ (binaryScale x.numerator x.denominator + 1) := high
    omega
  · omega

theorem nearestMagnitude_self (x : Binary64) (finite : x.isFinite = true) :
    nearestMagnitude x.numerator x.denominator = x.magnitude := by
  rw [magnitude_eq_parts x]
  rcases Nat.eq_zero_or_pos x.significand with none | some
  · have bottom : x.exponent = -1074 := x.significand_full.resolve_left (by omega)
    simp [nearestMagnitude, numerator, none, bottom]
  · have positive : x.numerator ≠ 0 := (Nat.mul_pos some (Nat.pow_pos (by omega))).ne'
    -- On the grid of its own scale the value is a whole count of steps.
    have exact : roundHalfEven (x.numerator * Nat.pow 2 (-x.exponent).toNat)
        (x.denominator * Nat.pow 2 x.exponent.toNat) = x.significand := by
      have unit : 0 < Nat.pow 2 (-x.exponent).toNat * Nat.pow 2 x.exponent.toNat :=
        Nat.mul_pos (Nat.pow_pos (by omega)) (Nat.pow_pos (by omega))
      have scaled := roundHalfEven_scale x.significand 1 _ unit
      rw [one_mul] at scaled
      rw [numerator, denominator, mul_assoc, mul_comm (Nat.pow 2 x.exponent.toNat), scaled]
      simp [roundHalfEven, Nat.mod_one]
    have below : (x.exponent + 1074).toNat * exponentUnit + x.significand ≤ infiniteMagnitude := by
      simp only [isFinite, decide_eq_true_eq, magnitude_eq_parts x] at finite
      exact finite.le
    simp only [nearestMagnitude, if_neg positive, scale_of_value x some, exact]
    exact Nat.min_eq_left below

theorem ofParts_self (x : Binary64) : ofParts x.negative x.magnitude = x := by
  have bound := x.bits.toNat_lt
  have whole : (if x.negative then signBit + x.magnitude else x.magnitude) = x.bits.toNat := by
    simp only [negative, magnitude, signBit]
    by_cases high : 9223372036854775808 ≤ x.bits.toNat
    · simp only [high, decide_true, if_true]
      omega
    · simp only [high, decide_false, Bool.false_eq_true, if_false]
      omega
  rw [ofParts, whole, UInt64.ofNat_toNat]

end Binary64

namespace Decimal

open Binary64

theorem dropZeros_reads (budget : ℕ) (d : Decimal) :
    nearestDecimal (dropZeros budget d).digits (dropZeros budget d).exponent =
      nearestDecimal d.digits d.exponent := by
  induction budget generalizing d with
  | zero => rfl
  | succ budget ih =>
      rw [dropZeros]
      split
      · rename_i zero
        simp only [Bool.and_eq_true, decide_eq_true_eq] at zero
        have whole : d.digits / 10 * 10 ^ 1 = d.digits := by omega
        rw [ih]
        calc nearestDecimal (d.digits / 10) (d.exponent + 1)
            = nearestDecimal (d.digits / 10 * 10 ^ 1) d.exponent :=
              (nearestDecimal_zeros _ 1 _).symm
          _ = nearestDecimal d.digits d.exponent := by rw [whole]
      · rfl

theorem candidate?_reads {tie : Tie} {num den magnitude : ℕ} {exponent : Int} {found : Decimal}
    (hit : candidate? tie num den magnitude exponent = some found) :
    nearestDecimal found.digits found.exponent = magnitude := by
  unfold candidate? at hit
  simp only at hit
  split at hit
  · rename_i low high
    cases hit
    simp only [beq_iff_eq] at low high
    simp only
    split <;> split <;> assumption
  · rename_i low high
    cases hit
    simpa using low
  · rename_i low high
    cases hit
    simpa using high
  · cases hit

theorem search_reads {tie : Tie} {num den magnitude : ℕ} {scale : Int} {counts : List ℕ}
    {found : Decimal} (hit : search tie num den magnitude scale counts = some found) :
    nearestDecimal found.digits found.exponent = magnitude := by
  induction counts with
  | nil => cases hit
  | cons count rest ih =>
      rw [search] at hit
      cases tried : candidate? tie num den magnitude (scale - count) with
      | none =>
          rw [tried] at hit
          exact ih hit
      | some first =>
          rw [tried] at hit
          cases hit
          exact candidate?_reads tried

/-- A fraction over a power of two has as many decimal places as binary ones. -/
theorem exact_reads (x : Binary64) (finite : x.isFinite = true) :
    nearestDecimal (exact x).digits (exact x).exponent = x.magnitude := by
  rw [← nearestMagnitude_self x finite, nearestDecimal_eq]
  apply nearestMagnitude_congr _ _ _ _ (Nat.pow_pos (by omega)) x.denominator_pos
  have whole : (min x.exponent 0).toNat = 0 := by omega
  have places : (-min x.exponent 0).toNat = (-x.exponent).toNat := by omega
  rw [exact, whole, places, denominator]
  simp only [Nat.pow_eq, pow_zero, mul_one]
  rw [mul_assoc, ← mul_pow]
  norm_num

theorem shortest_reads (tie : Tie) (x : Binary64) (finite : x.isFinite = true) :
    nearestDecimal (shortest tie x).digits (shortest tie x).exponent = x.magnitude := by
  unfold shortest
  simp only
  split
  · rename_i none
    rw [← nearestMagnitude_self x finite, none]
    simp [nearestDecimal, nearestMagnitude]
  · rw [dropZeros_reads]
    cases found : search tie x.numerator x.denominator x.magnitude
        (decimalScale x.numerator x.denominator 8
          (binaryScale x.numerator x.denominator * 30103 / 100000 - 1))
        ((List.range 17).map (· + 1)) with
    | none => exact exact_reads x finite
    | some decimal => exact search_reads found

end Decimal

end Asn1Constraints
