import Ensemble.Number.Shortest
import Ensemble.Proofs.Number.Monotone

/-!
# The magnitudes that round to a number

A number of 64 bits has a magnitude with 53 binary digits (`IsRepresentable`).  The magnitudes that
round to it reach half a digit up and half a digit down, or a quarter down where the digits below it
are half as long.  The ends are among them if the last digit is even (`roundUnits_eq`).

`roundsTo` asks this of a decimal, so that a decimal it accepts is rounded to the number
(`ofDecimal_of_roundsTo`).
-/

namespace Ensemble.Binary64

/-- Whether a number is one that 64 bits can hold. -/
def IsRepresentable : Binary64 → Prop
  | finite _ units => keptDigit units ∣ units ∧ units < overflowUnits
  | _ => True

instance : DecidablePred IsRepresentable
  | finite _ units => inferInstanceAs (Decidable (keptDigit units ∣ units ∧ units < overflowUnits))
  | nan => .isTrue trivial
  | infinite _ => .isTrue trivial

/-! ## Rounding to the nearest -/

/-- A quotient is rounded to a number that is at most half a unit away, and to one that is exactly
half a unit away if it is even. -/
theorem roundQuotient_eq {k num den : Nat} (pos : 0 < den) (low : 2 * (k * den) ≤ 2 * num + den)
    (high : 2 * num ≤ 2 * (k * den) + den)
    (tie : 2 * (k * den) = 2 * num + den ∨ 2 * num = 2 * (k * den) + den → k % 2 = 0) :
    roundQuotient num den = k := by
  have split : num / den * den + num % den = num := Nat.div_add_mod' num den
  have small : num % den < den := Nat.mod_lt num pos
  -- The number that is at most half away is the quotient or the next one.
  have above : k ≤ num / den + 1 := by
    refine Nat.lt_succ_iff.1 (Nat.lt_of_mul_lt_mul_right (a := den) ?_)
    rw [Nat.succ_mul, Nat.succ_mul]
    omega
  have below : num / den ≤ k := by
    refine Nat.lt_succ_iff.1 (Nat.lt_of_mul_lt_mul_right (a := den) ?_)
    rw [Nat.succ_mul]
    omega
  simp only [roundQuotient]
  generalize num / den = quotient at split above below ⊢
  generalize num % den = rest at split small ⊢
  rcases Nat.lt_or_eq_of_le below with less | rfl
  · obtain rfl : k = quotient + 1 := by omega
    rw [Nat.add_one_mul quotient den] at low high tie
    rw [if_neg]
    simp only [Bool.or_eq_true, Bool.and_eq_true, decide_eq_true_eq, beq_iff_eq]
    omega
  · rw [if_pos]
    simp only [Bool.or_eq_true, Bool.and_eq_true, decide_eq_true_eq, beq_iff_eq]
    omega

/-! ## The last kept digit -/

theorem keptDigit_pos (whole : Nat) : 0 < keptDigit whole :=
  Nat.two_pow_pos _

/-- A magnitude has at most 53 digits. -/
theorem lt_keptDigit_mul (whole : Nat) : whole < keptDigit whole * 2 ^ 53 := by
  refine Nat.lt_of_lt_of_le Nat.lt_log2_self ?_
  have power : keptDigit whole * 2 ^ 53 = 2 ^ (whole.log2 - 52 + 53) := (Nat.pow_add ..).symm
  rw [power]
  exact Nat.pow_le_pow_right (by decide) (by omega)

/-- A magnitude with digits left out has 53 of them. -/
theorem keptDigit_mul_le {whole : Nat} (large : 1 < keptDigit whole) :
    keptDigit whole * 2 ^ 52 ≤ whole := by
  have exponent : 52 < whole.log2 := by
    refine Nat.not_le.1 fun few => ?_
    rw [keptDigit, Nat.sub_eq_zero_of_le few] at large
    exact absurd large (by decide)
  have power : keptDigit whole * 2 ^ 52 = 2 ^ (whole.log2 - 52 + 52) := (Nat.pow_add ..).symm
  rw [power, Nat.sub_add_cancel (Nat.le_of_lt exponent)]
  refine Nat.log2_self_le ?_
  rintro rfl
  simp [Nat.log2_zero] at exponent

/-- The power of two with 53 digits up to a magnitude is its last kept digit. -/
theorem keptDigit_eq {whole exponent : Nat} (low : 2 ^ exponent * 2 ^ 52 ≤ whole)
    (high : whole < 2 ^ exponent * 2 ^ 53) : keptDigit whole = 2 ^ exponent := by
  rw [← Nat.pow_add] at low high
  have some : whole ≠ 0 := Nat.ne_of_gt (Nat.lt_of_lt_of_le (Nat.two_pow_pos _) low)
  have log : whole.log2 = exponent + 52 := (Nat.log2_eq_iff some).2 ⟨low, high⟩
  rw [keptDigit, log, Nat.add_sub_cancel]
  rfl

/-- Below `2^53` all digits are kept. -/
theorem keptDigit_of_lt {whole : Nat} (few : whole < 2 ^ 53) : keptDigit whole = 1 := by
  have log : whole.log2 ≤ 52 := by
    rcases Nat.eq_zero_or_pos whole with rfl | pos
    · simp [Nat.log2_zero]
    · exact Nat.lt_succ_iff.1 ((Nat.log2_lt (Nat.ne_of_gt pos)).2 few)
  rw [keptDigit, Nat.sub_eq_zero_of_le log]

/-! ## The interval of a number -/

/-- How far the magnitudes that round to a number reach below it, in quarters. -/
def lowerGap (units : Nat) : Nat :=
  if units = keptDigit units * 2 ^ 52 ∧ 1 < keptDigit units then keptDigit units
  else 2 * keptDigit units

theorem lowerGap_le (units : Nat) : lowerGap units ≤ 2 * keptDigit units := by
  rw [lowerGap]
  split <;> omega

/-- Multiples that differ are a whole digit apart. -/
theorem add_le_of_dvd {digit a b : Nat} (multiple : digit ∣ a) (multiple' : digit ∣ b)
    (less : a < b) : a + digit ≤ b := by
  obtain ⟨k, rfl⟩ := multiple
  obtain ⟨l, rfl⟩ := multiple'
  exact Nat.mul_le_mul_left digit (Nat.lt_of_mul_lt_mul_left less)

section Interval

variable {units num den : Nat}

/-- A magnitude that is at least as large as a whole number, with its fraction. -/
theorem le_div_of_quarters {power : Nat} (pos : 0 < den)
    (low : 4 * (units * den) ≤ 4 * num + lowerGap units * den)
    (le : 4 * power + lowerGap units ≤ 4 * units) : power ≤ num / den := by
  refine (Nat.le_div_iff_mul_le pos).2 ?_
  have scaled := Nat.mul_le_mul_right den le
  rw [Nat.add_mul, Nat.mul_assoc, Nat.mul_assoc] at scaled
  omega

/-- The first number with its last kept digit is a power of two, with one digit more than fits if
half that digit is kept. -/
theorem exists_eq_of_first (first : units = keptDigit units * 2 ^ 52)
    (large : 1 < keptDigit units) :
    ∃ exponent, keptDigit units = 2 * 2 ^ exponent ∧ units = 2 ^ exponent * 2 ^ 53 := by
  have power : keptDigit units = 2 ^ (units.log2 - 52) := rfl
  obtain ⟨exponent, later⟩ : ∃ exponent, units.log2 - 52 = exponent + 1 := by
    refine Nat.exists_eq_succ_of_ne_zero fun none => ?_
    rw [power, none] at large
    exact absurd large (by decide)
  have double : keptDigit units = 2 * 2 ^ exponent := by
    rw [power, later, Nat.pow_succ, Nat.mul_comm]
  refine ⟨exponent, double, ?_⟩
  rw [first, double, Nat.mul_comm 2, Nat.mul_assoc]
  rfl

/-- The magnitudes of the interval keep the same last digit as the number, or half of it if they are
below the first number with its digit. -/
theorem keptDigit_of_near (pos : 0 < den) (exact : keptDigit units ∣ units)
    (low : 4 * (units * den) ≤ 4 * num + lowerGap units * den)
    (high : 4 * num ≤ 4 * (units * den) + 2 * (keptDigit units * den)) :
    keptDigit (num / den) = keptDigit units ∨
      units = keptDigit units * 2 ^ 52 ∧ keptDigit units = 2 * keptDigit (num / den) ∧
        num < units * den := by
  have above : 2 * (num / den) ≤ 2 * units + keptDigit units := by
    have scaled : 4 * (num / den) * den ≤ (4 * units + 2 * keptDigit units) * den := by
      have whole : num / den * den ≤ num := Nat.div_mul_le_self num den
      rw [Nat.add_mul, Nat.mul_assoc, Nat.mul_assoc, Nat.mul_assoc]
      omega
    have := Nat.le_of_mul_le_mul_right scaled pos
    omega
  have short : units < keptDigit units * 2 ^ 53 := lt_keptDigit_mul units
  have below {power : Nat} (le : 4 * power + lowerGap units ≤ 4 * units) : power ≤ num / den :=
    le_div_of_quarters pos low le
  rcases Nat.eq_or_lt_of_le (keptDigit_pos units) with one | large
  · -- All digits are kept, of the number and of what is not above it by a whole unit.
    rw [← one] at short above ⊢
    exact .inl (keptDigit_of_lt (by omega))
  · have long : keptDigit units * 2 ^ 52 ≤ units := keptDigit_mul_le large
    have gap := lowerGap_le units
    have next : units + keptDigit units ≤ keptDigit units * 2 ^ 53 :=
      add_le_of_dvd exact (Nat.dvd_mul_right ..) short
    have high : num / den < keptDigit units * 2 ^ 53 := by omega
    by_cases first : units = keptDigit units * 2 ^ 52
    · rcases Nat.lt_or_ge num (units * den) with less | more
      · right
        have down : num / den < units := Nat.div_lt_of_lt_mul (Nat.mul_comm units den ▸ less)
        have quarter : lowerGap units = keptDigit units := if_pos ⟨first, large⟩
        obtain ⟨exponent, double, whole⟩ := exists_eq_of_first first large
        have half : keptDigit (num / den) = 2 ^ exponent :=
          keptDigit_eq (below (by omega)) (whole ▸ down)
        exact ⟨first, by rw [half, double], less⟩
      · left
        have up : units ≤ num / den := (Nat.le_div_iff_mul_le pos).2 more
        exact keptDigit_eq (Nat.le_trans (Nat.le_of_eq first.symm) up) high
    · left
      have power : keptDigit units = 2 ^ (units.log2 - 52) := rfl
      have second : keptDigit units * 2 ^ 52 + keptDigit units ≤ units :=
        add_le_of_dvd (Nat.dvd_mul_right ..) exact (Nat.lt_of_le_of_ne long (Ne.symm first))
      exact keptDigit_eq (below (by omega)) high

/-- What lies in the interval of a number is rounded to it, and the ends are if the last digit of
the number is even. -/
theorem roundUnits_eq (pos : 0 < den) (exact : keptDigit units ∣ units)
    (low : 4 * (units * den) ≤ 4 * num + lowerGap units * den)
    (high : 4 * num ≤ 4 * (units * den) + 2 * (keptDigit units * den))
    (tie : 4 * (units * den) = 4 * num + lowerGap units * den ∨
      4 * num = 4 * (units * den) + 2 * (keptDigit units * den) →
        units / keptDigit units % 2 = 0) : roundUnits num den = units := by
  rw [roundUnits]
  rcases keptDigit_of_near pos exact low high with same | ⟨first, half, less⟩
  · have digits : units / keptDigit units * keptDigit units = units := Nat.div_mul_cancel exact
    have scaled : units / keptDigit units * (keptDigit units * den) = units * den := by
      rw [← Nat.mul_assoc, digits]
    have gap : lowerGap units * den = keptDigit units * den ∨
        lowerGap units * den = 2 * (keptDigit units * den) := by
      rw [lowerGap, ← Nat.mul_assoc]
      split <;> simp
    have some : 0 < keptDigit units * den := Nat.mul_pos (keptDigit_pos units) pos
    have nearest : roundQuotient num (keptDigit units * den) = units / keptDigit units := by
      apply roundQuotient_eq some <;> rw [scaled] <;> omega
    rw [same, Nat.mul_comm den, nearest, digits]
  · -- Below the first number with its digit the digits are half as long, and it has `2^53` of them.
    have large : 1 < keptDigit units := by
      have := keptDigit_pos (num / den)
      omega
    have quarter : lowerGap units = keptDigit units := if_pos ⟨first, large⟩
    rw [quarter, half, Nat.mul_assoc] at low
    have digits : 2 ^ 53 * keptDigit (num / den) = units := by
      rw [first, half, Nat.mul_comm 2, Nat.mul_assoc, Nat.mul_comm]
      rfl
    have scaled : 2 ^ 53 * (keptDigit (num / den) * den) = units * den := by
      rw [← Nat.mul_assoc, digits]
    have some : 0 < keptDigit (num / den) * den := Nat.mul_pos (keptDigit_pos _) pos
    have nearest : roundQuotient num (keptDigit (num / den) * den) = 2 ^ 53 := by
      apply roundQuotient_eq some
      · rw [scaled]; omega
      · rw [scaled]; omega
      · exact fun _ => rfl
    rw [Nat.mul_comm den, nearest, digits]

end Interval

/-! ## Decimals in the interval -/

namespace Decimal

/-- The numerator of a decimal, as a fraction whose denominator is a power of ten. -/
def numerator (d : Decimal) : Nat :=
  d.digits * 10 ^ d.exponent.toNat

/-- The denominator of a decimal; it is one if the exponent is not negative. -/
def denominator (d : Decimal) : Nat :=
  10 ^ (-d.exponent).toNat

theorem denominator_pos (d : Decimal) : 0 < d.denominator :=
  Nat.pow_pos (by decide)

/-- The number nearest to a decimal. -/
theorem ofDecimal_eq (negative : Bool) (d : Decimal) :
    ofDecimal negative d.digits d.exponent = ofRatio negative d.numerator d.denominator := by
  rw [ofDecimal, numerator, denominator]
  split
  next whole =>
    rw [Int.toNat_of_nonpos (Int.neg_nonpos_of_nonneg whole)]
    rfl
  next small =>
    rw [Int.toNat_of_nonpos (Int.le_of_lt (Int.not_le.1 small)), Nat.pow_zero, Nat.mul_one]
    rfl

/-- A decimal is compared with a number of quarters of a unit. -/
theorem compareQuarters_eq (d : Decimal) (quarters : Nat) :
    compareQuarters d quarters =
      compare (4 * (d.numerator * unitsInOne)) (quarters * d.denominator) := by
  have order (n : Nat) : 4 * (n * unitsInOne) = n * (4 * unitsInOne) := Nat.mul_left_comm 4 n _
  rw [compareQuarters, numerator, denominator, order]
  split
  next whole =>
    rw [Int.toNat_of_nonpos (Int.neg_nonpos_of_nonneg whole), Nat.pow_zero, Nat.mul_one]
    rfl
  next small =>
    rw [Int.toNat_of_nonpos (Int.le_of_lt (Int.not_le.1 small)), Nat.pow_zero, Nat.mul_one]
    rfl

end Decimal

theorem roundingInterval_eq (units : Nat) :
    roundingInterval units =
      (4 * units - lowerGap units, 4 * units + 2 * keptDigit units,
        units / keptDigit units % 2 == 0) := by
  simp only [roundingInterval, lowerGap, Bool.and_eq_true, beq_iff_eq, decide_eq_true_eq]
  rfl

/-- A decimal is accepted if it lies in the interval of a number, or at an end of it if the last
digit of the number is even. -/
theorem roundsTo_iff {units : Nat} {d : Decimal} :
    roundsTo units d = true ↔
      (4 * units - lowerGap units) * d.denominator ≤ 4 * (d.numerator * unitsInOne) ∧
      4 * (d.numerator * unitsInOne) ≤ (4 * units + 2 * keptDigit units) * d.denominator ∧
      (4 * (d.numerator * unitsInOne) = (4 * units - lowerGap units) * d.denominator ∨
        4 * (d.numerator * unitsInOne) = (4 * units + 2 * keptDigit units) * d.denominator →
          units / keptDigit units % 2 = 0) := by
  have order : (4 * units - lowerGap units) * d.denominator ≤
      (4 * units + 2 * keptDigit units) * d.denominator := Nat.mul_le_mul_right _ (by omega)
  rw [roundsTo, roundingInterval_eq]
  simp only [Decimal.compareQuarters_eq]
  generalize (4 * units - lowerGap units) * d.denominator = low at order ⊢
  generalize (4 * units + 2 * keptDigit units) * d.denominator = high at order ⊢
  generalize 4 * (d.numerator * unitsInOne) = value
  cases atLow : compare value low <;> cases atHigh : compare value high <;>
    simp only [Nat.compare_eq_lt, Nat.compare_eq_eq, Nat.compare_eq_gt] at atLow atHigh <;>
    simp only [beq_iff_eq, Bool.false_eq_true, true_iff, false_iff] <;> omega

/-- A decimal that is accepted is rounded to the number. -/
theorem ofDecimal_of_roundsTo {units : Nat} {d : Decimal} (exact : keptDigit units ∣ units)
    (small : units < overflowUnits) (accepted : roundsTo units d = true) (negative : Bool) :
    ofDecimal negative d.digits d.exponent = finite negative units := by
  obtain ⟨low, high, tie⟩ := roundsTo_iff.1 accepted
  have gap : 4 * (units * d.denominator) ≤
      (4 * units - lowerGap units) * d.denominator + lowerGap units * d.denominator := by
    rw [← Nat.add_mul, ← Nat.mul_assoc]
    exact Nat.mul_le_mul_right _ (by omega)
  rw [Nat.add_mul, Nat.mul_assoc 4, Nat.mul_assoc 2] at high tie
  have rounded : roundUnits (d.numerator * unitsInOne) d.denominator = units := by
    refine roundUnits_eq d.denominator_pos exact (by omega) high fun ends => tie ?_
    omega
  rw [d.ofDecimal_eq, ofRatio, rounded, ofUnits, if_pos small]

end Ensemble.Binary64
