import Asn1Constraints.Json.Scanner
import Asn1Constraints.Proofs.ShortestDecimals
import Mathlib

/-!
Printed numbers read back, whatever follows them in a document. The reader takes
digits for as long as there are any, so what matters of the following text is
that it does not start with something a number could go on with.
-/

namespace Asn1Constraints.Json

/-! Digits. -/

theorem digitsValue_eq (digits : List Char) :
    digitsValue digits = Nat.ofDigitChars 10 digits 0 := by
  have zero : '0'.toNat = 48 := rfl
  simp only [Nat.ofDigitChars_eq_foldl, digitsValue, zero, Nat.mul_comm 10]

theorem digitsValue_toDigits (n : ℕ) : digitsValue (Nat.toDigits 10 n) = n := by
  rw [digitsValue_eq, Nat.ofDigitChars_ten_toDigits]

theorem digitsValue_zeros_before (zeros : ℕ) (digits : List Char) :
    digitsValue (List.replicate zeros '0' ++ digits) = digitsValue digits := by
  simp only [digitsValue_eq, Nat.ofDigitChars_append, Nat.ofDigitChars_replicate_zero, Nat.mul_zero]

theorem digitsValue_zeros_after (digits : List Char) (zeros : ℕ) :
    digitsValue (digits ++ List.replicate zeros '0') = digitsValue digits * 10 ^ zeros := by
  simp only [digitsValue_eq, Nat.ofDigitChars_append, Nat.ofDigitChars_replicate_zero, Nat.mul_comm]

/-- A run of digits that may be the whole part of a number. -/
structure WholePart (digits : List Char) : Prop where
  isDigit : ∀ c ∈ digits, c.isDigit = true
  nonempty : digits ≠ []
  plain : digits.head? = some '0' → digits = ['0']

theorem toDigits_isDigit (n : ℕ) : ∀ c ∈ Nat.toDigits 10 n, c.isDigit = true :=
  fun _ member => Nat.isDigit_of_mem_toDigits (by decide) (by decide) member

theorem toDigits_head_zero (n : ℕ) (zero : (Nat.toDigits 10 n).head? = some '0') : n = 0 := by
  induction n using Nat.strongRecOn with
  | ind n ih =>
      rw [Nat.toDigits_eq_if (by decide)] at zero
      split at zero
      · rename_i small
        have digits : ∀ n < 10, n.digitChar = '0' → n = 0 := by decide
        exact digits n small (by simpa using zero)
      · rename_i large
        rw [List.head?_append_of_ne_nil _ Nat.toDigits_ne_nil] at zero
        have := ih (n / 10) (by omega) zero
        omega

theorem toDigits_wholePart (n : ℕ) : WholePart (Nat.toDigits 10 n) where
  isDigit := toDigits_isDigit n
  nonempty := Nat.toDigits_ne_nil
  plain zero := by
    rw [toDigits_head_zero n zero]
    rfl

theorem WholePart.with_zeros {digits : List Char} (part : WholePart digits)
    (positive : digits.head? ≠ some '0') (zeros : ℕ) :
    WholePart (digits ++ List.replicate zeros '0') where
  isDigit c member := by
    rcases List.mem_append.mp member with own | added
    · exact part.isDigit c own
    · rw [List.eq_of_mem_replicate added]
      rfl
  nonempty := by simp [part.nonempty]
  plain zero := by
    rw [List.head?_append_of_ne_nil _ part.nonempty] at zero
    exact absurd zero positive

theorem WholePart.take {digits : List Char} (part : WholePart digits)
    (positive : digits.head? ≠ some '0') (count : ℕ) (some : 0 < count) :
    WholePart (digits.take count) where
  isDigit c member := part.isDigit c (List.mem_of_mem_take member)
  nonempty := by simp [part.nonempty, some.ne']
  plain zero := by
    rw [List.head?_take, if_neg some.ne'] at zero
    exact absurd zero positive

/-! What the reader takes. -/

/-- The text does not start with a character that could belong to the run. -/
def StopsBefore (belongs : Char → Bool) (rest : List Char) : Prop :=
  ∀ c, rest.head? = some c → belongs c = false

/-- The text cannot carry a number on. -/
def EndsNumber (rest : List Char) : Prop :=
  StopsBefore (fun c => c.isDigit || c == '.' || c == 'e' || c == 'E') rest

theorem EndsNumber.stops {rest : List Char} (ends : EndsNumber rest) :
    StopsBefore Char.isDigit rest := fun c head => by
  have outside := ends c head
  simp only [Bool.or_eq_false_iff] at outside
  exact outside.1.1.1

theorem stopsBefore_cons {belongs : Char → Bool} {c : Char} {rest : List Char}
    (outside : belongs c = false) : StopsBefore belongs (c :: rest) := by
  rintro other head
  obtain rfl : c = other := by simpa using head
  exact outside

theorem takeWhile_run {belongs : Char → Bool} (run : List Char)
    (inside : ∀ c ∈ run, belongs c = true) (rest : List Char) (stops : StopsBefore belongs rest) :
    (run ++ rest).takeWhile belongs = run ∧ (run ++ rest).dropWhile belongs = rest := by
  rw [List.takeWhile_append_of_pos inside, List.dropWhile_append_of_pos inside]
  cases rest with
  | nil => simp
  | cons c tail => simp [stops c rfl]

theorem takeDigits_run (digits : List Char) (isDigit : ∀ c ∈ digits, c.isDigit = true)
    (rest : List Char) (stops : StopsBefore Char.isDigit rest) :
    takeDigits (digits ++ rest) = (digits, rest) := by
  obtain ⟨taken, left⟩ := takeWhile_run digits isDigit rest stops
  rw [takeDigits, taken, left]

theorem takeSign_digits {digits : List Char} (part : WholePart digits) (rest : List Char) :
    takeSign (digits ++ rest) = (false, digits ++ rest) := by
  obtain ⟨c, tail, rfl⟩ := List.exists_cons_of_ne_nil part.nonempty
  have digit := part.isDigit c List.mem_cons_self
  rw [List.cons_append, takeSign]
  rintro following same
  obtain ⟨rfl, _⟩ := List.cons.inj same
  cases digit

theorem takeFraction_digits (digits : List Char) (isDigit : ∀ c ∈ digits, c.isDigit = true)
    (some : digits ≠ []) (rest : List Char) (stops : StopsBefore Char.isDigit rest) :
    takeFraction ('.' :: (digits ++ rest)) = .some (.some digits, rest) := by
  obtain ⟨c, tail, rfl⟩ := List.exists_cons_of_ne_nil some
  rw [takeFraction, takeDigits_run _ isDigit rest stops]

theorem takeFraction_none (rest : List Char) (stops : StopsBefore (· == '.') rest) :
    takeFraction rest = some (none, rest) := by
  rw [takeFraction]
  rintro following rfl
  simpa using stops '.' rfl

theorem takeExponent_none (rest : List Char) (ends : EndsNumber rest) :
    takeExponent rest = some (none, rest) := by
  unfold takeExponent
  simp only
  split
  · exact absurd (ends 'e' rfl) (by decide)
  · exact absurd (ends 'E' rfl) (by decide)
  · rfl

theorem takeExponent_exponentChars (exponent : Int) (rest : List Char) (ends : EndsNumber rest) :
    takeExponent (Layout.json.exponentChars exponent ++ rest) = some (some exponent, rest) := by
  have part := toDigits_wholePart exponent.natAbs
  have digits := takeDigits_run _ part.isDigit rest ends.stops
  have value := digitsValue_toDigits exponent.natAbs
  obtain ⟨c, tail, spelled⟩ := List.exists_cons_of_ne_nil part.nonempty
  rw [spelled] at digits value
  rw [List.cons_append] at digits
  unfold Layout.exponentChars
  simp only [spelled]
  split <;> rename_i sign
  · have size : -|exponent| = exponent := by rw [abs_of_neg sign, neg_neg]
    simp [takeExponent, takeSign, digits, value, size]
  · have size : |exponent| = exponent := abs_of_nonneg (not_lt.mp sign)
    simp [takeExponent, digits, value, size, Layout.json]

/-! Numerals. -/

/-- The spellings of a number without its sign, by the parts they consist of. -/
inductive Spelling : List Char → List Char → Option (List Char) → Option Int → Prop where
  | whole {digits} : WholePart digits → Spelling digits digits none none
  | fraction {digits places} :
      WholePart digits → (∀ c ∈ places, c.isDigit = true) → places ≠ [] →
      Spelling (digits ++ '.' :: places) digits (some places) none
  | exponent {digits} (exponent) :
      WholePart digits →
      Spelling (digits ++ Layout.json.exponentChars exponent) digits none (some exponent)
  | scientific {digits places} (exponent) :
      WholePart digits → (∀ c ∈ places, c.isDigit = true) → places ≠ [] →
      Spelling (digits ++ '.' :: (places ++ Layout.json.exponentChars exponent)) digits
        (some places) (some exponent)

theorem stopsBefore_exponentChars {belongs : Char → Bool} (outside : belongs 'e' = false)
    (exponent : Int) (rest : List Char) :
    StopsBefore belongs (Layout.json.exponentChars exponent ++ rest) := by
  unfold Layout.exponentChars
  simp only
  split
  · exact stopsBefore_cons outside
  · exact stopsBefore_cons outside

theorem EndsNumber.noPoint {rest : List Char} (ends : EndsNumber rest) :
    StopsBefore (· == '.') rest := fun c head => by
  have outside := ends c head
  simp only [Bool.or_eq_false_iff] at outside
  exact outside.1.1.2

/-- Where the digits before the point end, and what the reader takes after them. -/
theorem Spelling.taken {chars whole : List Char} {fraction : Option (List Char)}
    {exponent : Option Int} (spelling : Spelling chars whole fraction exponent)
    (rest : List Char) (ends : EndsNumber rest) :
    ∃ tail, chars ++ rest = whole ++ tail ∧ StopsBefore Char.isDigit tail ∧
      ∃ middle, takeFraction tail = some (fraction, middle) ∧
        takeExponent middle = some (exponent, rest) := by
  cases spelling with
  | whole part =>
      exact ⟨rest, rfl, ends.stops, rest, takeFraction_none rest ends.noPoint,
        takeExponent_none rest ends⟩
  | fraction part places some =>
      refine ⟨_, List.append_assoc _ _ _, stopsBefore_cons rfl, rest, ?_,
        takeExponent_none rest ends⟩
      exact takeFraction_digits _ places some rest ends.stops
  | exponent power part =>
      refine ⟨_, List.append_assoc _ _ _, stopsBefore_exponentChars rfl power rest, _,
        takeFraction_none _ (stopsBefore_exponentChars rfl power rest), ?_⟩
      exact takeExponent_exponentChars power rest ends
  | scientific power part places some =>
      refine ⟨_, List.append_assoc _ _ _, stopsBefore_cons rfl, _, ?_,
        takeExponent_exponentChars power rest ends⟩
      rw [List.cons_append, List.append_assoc]
      exact takeFraction_digits _ places some _ (stopsBefore_exponentChars rfl power rest)

theorem Spelling.wholePart {chars whole : List Char} {fraction : Option (List Char)}
    {exponent : Option Int} (spelling : Spelling chars whole fraction exponent) :
    WholePart whole := by
  cases spelling <;> assumption

def signed (negative : Bool) (chars : List Char) : List Char :=
  if negative then '-' :: chars else chars

theorem Spelling.scanned {chars whole : List Char} {fraction : Option (List Char)}
    {exponent : Option Int} (spelling : Spelling chars whole fraction exponent) (negative : Bool)
    (rest : List Char) (ends : EndsNumber rest) :
    scanNumeral (signed negative chars ++ rest) =
      some (⟨negative, whole, fraction, exponent⟩, rest) := by
  have part := spelling.wholePart
  obtain ⟨tail, split, stops, middle, point, power⟩ := spelling.taken rest ends
  have sign : takeSign (signed negative chars ++ rest) = (negative, whole ++ tail) := by
    cases negative with
    | true => rw [← split]; rfl
    | false => rw [signed, if_neg (by decide), split, takeSign_digits part]
  rw [scanNumeral, sign]
  simp only [takeDigits_run whole part.isDigit _ stops, point, power]
  rw [if_neg]
  simpa [part.nonempty] using part.plain

/-! Whole numbers. -/

theorem wholeChars_eq (n : Int) :
    wholeChars n = signed (decide (n < 0)) (Nat.toDigits 10 n.natAbs) := by
  simp only [wholeChars, signed, decide_eq_true_eq]

theorem WholeNumber.ofInt?_val (n : WholeNumber) : WholeNumber.ofInt? n.val = some n := by
  rw [WholeNumber.ofInt?, dif_pos n.low, dif_pos n.high]

theorem scanNumber_wholeChars (n : WholeNumber) (rest : List Char) (ends : EndsNumber rest) :
    scanNumber true (wholeChars n.val ++ rest) = .ok (.integer n, rest) := by
  have scanned := (Spelling.whole (toDigits_wholePart n.val.natAbs)).scanned
    (decide (n.val < 0)) rest ends
  have value := digitsValue_toDigits n.val.natAbs
  have number : (⟨decide (n.val < 0), Nat.toDigits 10 n.val.natAbs, none, none⟩ : Numeral).number? =
      some (.integer n) := by
    have back :
        (if decide (n.val < 0) = true then -(n.val.natAbs : Int) else n.val.natAbs) = n.val := by
      simp only [decide_eq_true_eq]
      split <;> omega
    have some : (decide (n.val < 0) && decide ((n.val.natAbs : Int) = 0)) = false := by
      rw [Bool.and_eq_false_iff, decide_eq_false_iff_not, decide_eq_false_iff_not]
      omega
    simp only [Numeral.number?, Option.isSome_none, Bool.or_self, Bool.false_eq_true, if_false,
      value, some, back, WholeNumber.ofInt?_val]
  rw [wholeChars_eq, scanNumber, scanned]
  simp [number]

/-! Reals. -/

open Binary64 in
/-- A spelling that cannot be taken for that of a whole number, and whose
decimal is rounded to the magnitude. -/
def SpellsMagnitude (chars : List Char) (magnitude : ℕ) : Prop :=
  ∃ whole fraction exponent, Spelling chars whole fraction exponent ∧
    (fraction.isSome || exponent.isSome) = true ∧
    nearestDecimal (digitsValue (whole ++ fraction.getD []))
      (exponent.getD 0 - (fraction.getD []).length) = magnitude

theorem wholePart_digit {c : Char} (isDigit : c.isDigit = true) : WholePart [c] where
  isDigit := by simpa using isDigit
  nonempty := by simp
  plain head := by simpa using head

/-- Written without an exponent, a decimal keeps its value: the point is before,
behind or among its digits. -/
theorem positionalChars_spells (d : ℕ) (some : d ≠ 0) (exponent : Int) :
    SpellsMagnitude (Layout.json.positionalChars (Nat.toDigits 10 d)
      (exponent + (Nat.toDigits 10 d).length)) (Binary64.nearestDecimal d exponent) := by
  have part := toDigits_wholePart d
  have value := digitsValue_toDigits d
  have positive : (Nat.toDigits 10 d).head? ≠ .some '0' :=
    fun zero => some (toDigits_head_zero d zero)
  generalize Nat.toDigits 10 d = digits at *
  unfold Layout.positionalChars
  split
  -- All digits follow the point, with zeros between.
  · rename_i before
    refine ⟨['0'], .some (List.replicate (-(exponent + digits.length)).toNat '0' ++ digits), none,
      .fraction (wholePart_digit rfl) ?_ (by simp [part.nonempty]), rfl, ?_⟩
    · intro c member
      rcases List.mem_append.mp member with zero | own
      · rw [List.eq_of_mem_replicate zero]
        rfl
      · exact part.isDigit c own
    · have lead : ['0'] = List.replicate 1 '0' := rfl
      have places :
          (0 : Int) - ((-(exponent + digits.length)).toNat + digits.length : ℕ) = exponent := by
        omega
      simp only [Option.getD_some, Option.getD_none, List.length_append, List.length_replicate]
      rw [places, lead, digitsValue_zeros_before, digitsValue_zeros_before, value]
  · split
    -- All digits are before the point, with zeros between.
    · rename_i after behind
      generalize zerosEq : (exponent + digits.length).toNat - digits.length = zeros
      have point : exponent = zeros := by omega
      refine ⟨digits ++ List.replicate zeros '0', .some ['0'], none, ?_, rfl, ?_⟩
      · exact .fraction (part.with_zeros positive zeros) (by simp) (by simp)
      · have trail : List.replicate zeros '0' ++ ['0'] = List.replicate (zeros + 1) '0' :=
          List.replicate_succ'.symm
        simp only [Option.getD_some, Option.getD_none, List.length_singleton]
        rw [List.append_assoc, trail, digitsValue_zeros_after, value, Binary64.nearestDecimal_zeros,
          point]
        congr 1
        push_cast
        ring
    · rename_i after among
      generalize pointEq : (exponent + digits.length).toNat = point at *
      refine ⟨digits.take point, .some (digits.drop point), none, ?_, rfl, ?_⟩
      · refine .fraction (part.take positive point (by omega)) (fun c member => ?_) ?_
        · exact part.isDigit c (List.mem_of_mem_drop member)
        · simpa using Nat.lt_of_not_le among
      · have places : (0 : Int) - (digits.length - point : ℕ) = exponent := by omega
        simp only [Option.getD_some, Option.getD_none, List.length_drop]
        rw [places, List.take_append_drop, value]

theorem scientificChars_spells (d : ℕ) (exponent : Int) :
    SpellsMagnitude (Layout.json.scientificChars (Nat.toDigits 10 d)
      (exponent + (Nat.toDigits 10 d).length)) (Binary64.nearestDecimal d exponent) := by
  have part := toDigits_wholePart d
  have value := digitsValue_toDigits d
  generalize Nat.toDigits 10 d = digits at *
  match digits with
  | [] => exact absurd rfl part.nonempty
  | [first] =>
      refine ⟨[first], none, _, .exponent _ part, rfl, ?_⟩
      simp only [Option.getD_some, Option.getD_none, List.length_nil, List.length_singleton,
        List.append_nil, value]
      congr 1
      push_cast
      ring
  -- The point stands behind the first digit, and the exponent makes up for the rest.
  | first :: second :: rest =>
      have each := List.forall_mem_cons.mp part.isDigit
      refine ⟨[first], .some (second :: rest), _,
        .scientific _ (wholePart_digit each.1) each.2 (by simp), rfl, ?_⟩
      simp only [Option.getD_some, List.length_cons, List.singleton_append, value]
      congr 1
      push_cast
      ring

theorem zero_spells : SpellsMagnitude ['0', '.', '0'] 0 :=
  ⟨['0'], some ['0'], none, .fraction (wholePart_digit rfl) (by simp) (by simp), rfl, rfl⟩

theorem finiteChars_spells (x : Binary64) (finite : x.isFinite = true) :
    ∃ chars, Layout.json.chars x = signed x.negative chars ∧ SpellsMagnitude chars x.magnitude := by
  have number := Binary64.finite_not_nan finite
  have reads := Decimal.shortest_reads .toEven x finite
  rw [Layout.chars, number, if_neg (by decide), finite, if_pos rfl]
  refine ⟨_, rfl, ?_⟩
  rw [← reads]
  split
  · rename_i zero
    have none : (Decimal.shortest .toEven x).digits = 0 := zero
    rw [none]
    exact zero_spells
  · rename_i some
    split
    · exact positionalChars_spells _ some _
    · exact scientificChars_spells (Decimal.shortest .toEven x).digits _

theorem scanNumber_realChars (x : FiniteNumber) (rest : List Char) (ends : EndsNumber rest) :
    scanNumber true (Layout.json.chars x.val ++ rest) = .ok (.real x, rest) := by
  obtain ⟨chars, printed, whole, fraction, exponent, spelling, marked, reads⟩ :=
    finiteChars_spells x.val x.finite
  have number :
      (⟨x.val.negative, whole, fraction, exponent⟩ : Numeral).number? = some (.real x) := by
    rw [Numeral.number?, if_pos marked, Numeral.real?, Numeral.decimal]
    simp only
    rw [reads, Binary64.ofParts_self, ofReal?, dif_pos x.finite]
  rw [printed, scanNumber, spelling.scanned x.val.negative rest ends]
  simp [number]

end Asn1Constraints.Json
