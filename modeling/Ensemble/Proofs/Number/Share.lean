import Ensemble.Proofs.Number
import Mathlib.Algebra.Order.Field.Rat
import Mathlib.Data.Rat.Lemmas

/-!
# Shares

A share is the quotient of a part and a whole that is not smaller.  Rounding a quotient depends on
the quotient alone, not on how it is written (`nearest_div`).  It keeps a share between zero and
one, because below one the last kept digit goes into one without a remainder.  Of a whole with fewer
than `2^53` parts, only all of it is rounded to one: the other shares are further from one than the
digit is worth (`ofRatio_eq_one_iff`).
-/

namespace Ensemble.Binary64

/-! ## Rounding depends on the quotient -/

theorem roundQuotient_mul_mul {k : Nat} (pos : 0 < k) (num den : Nat) :
    roundQuotient (k * num) (k * den) = roundQuotient num den := by
  have twice : 2 * (k * (num % den)) = k * (2 * (num % den)) := Nat.mul_left_comm _ _ _
  simp only [roundQuotient, Nat.mul_div_mul_left _ _ pos, Nat.mul_mod_mul_left, twice,
    Nat.mul_lt_mul_left pos, beq_eq_decide, Nat.mul_right_inj (Nat.ne_of_gt pos)]

theorem roundUnits_mul_mul {k : Nat} (pos : 0 < k) (num den : Nat) :
    roundUnits (k * num) (k * den) = roundUnits num den := by
  rw [roundUnits, roundUnits, Nat.mul_div_mul_left _ _ pos, Nat.mul_assoc,
    roundQuotient_mul_mul pos]

theorem ofRatio_mul_mul {k : Nat} (pos : 0 < k) (negative : Bool) (num den : Nat) :
    ofRatio negative (k * num) (k * den) = ofRatio negative num den := by
  rw [ofRatio, ofRatio, Nat.mul_assoc, roundUnits_mul_mul pos]

/-- The number nearest to a rational one. -/
def nearest (q : ℚ) : Binary64 :=
  ofRatio (decide (q < 0)) q.num.natAbs q.den

/-- The number nearest to a quotient, however it is written. -/
theorem nearest_div (num : Nat) {den : Nat} (pos : 0 < den) :
    nearest ((num : ℚ) / den) = ofRatio false num den := by
  let q : ℚ := num / den
  have nonneg : 0 ≤ q := div_nonneg (Nat.cast_nonneg num) (Nat.cast_nonneg den)
  obtain ⟨part, number⟩ := Int.eq_ofNat_of_zero_le (Rat.num_nonneg.2 nonneg)
  -- The fraction in lowest terms and the given one are equal crosswise.
  have cross : den * part = q.den * num := by
    have same : (part : ℚ) / q.den = num / den := by
      rw [← Int.cast_natCast, ← number]
      exact q.num_div_den
    rw [div_eq_div_iff (Nat.cast_ne_zero.2 q.den_ne_zero) (Nat.cast_ne_zero.2 (Nat.ne_of_gt pos))]
      at same
    rw [Nat.mul_comm den, Nat.mul_comm q.den]
    exact_mod_cast same
  calc nearest q = ofRatio false part q.den := by
        rw [nearest, decide_eq_false (not_lt.2 nonneg), number, Int.natAbs_natCast]
    _ = ofRatio false (den * part) (den * q.den) := (ofRatio_mul_mul pos ..).symm
    _ = ofRatio false (q.den * num) (q.den * den) := by rw [cross, Nat.mul_comm den]
    _ = ofRatio false num den := ofRatio_mul_mul q.den_pos ..

/-! ## Shares of one -/

variable {part whole : Nat}

/-- The last kept digit of a magnitude goes into every power of two above it, at least `2^53` times
if that power is so long. -/
theorem exists_eq_mul_keptDigit {exponent power : Nat} (isPower : power = 2 ^ exponent)
    (long : 53 ≤ exponent) {units : Nat} (below : units < power) :
    ∃ digits, 2 ^ 53 ≤ digits ∧ power = digits * keptDigit units := by
  subst isPower
  have log : units.log2 - 52 ≤ exponent - 53 := by
    rcases Nat.eq_zero_or_pos units with rfl | pos
    · simp [Nat.log2_zero]
    · rw [← Nat.log2_lt (Nat.ne_of_gt pos)] at below
      omega
  have places : exponent = exponent - (units.log2 - 52) + (units.log2 - 52) := by omega
  refine ⟨2 ^ (exponent - (units.log2 - 52)), Nat.pow_le_pow_right (by decide) (by omega), ?_⟩
  exact (congrArg (2 ^ ·) places).trans (Nat.pow_add ..)

theorem unitsInOne_eq_pow : unitsInOne = 2 ^ 1074 := by
  unfold unitsInOne
  generalize 1074 = exponent
  exact Nat.pow_eq

/-- A share that is not all is rounded in steps that go into one. -/
theorem exists_roundUnits_eq (less : part < whole) :
    ∃ digits digit, 2 ^ 53 ≤ digits ∧ unitsInOne = digits * digit ∧
      roundUnits (part * unitsInOne) whole = roundQuotient (part * digits) whole * digit := by
  have below : part * unitsInOne / whole < unitsInOne :=
    Nat.div_lt_of_lt_mul (Nat.mul_lt_mul_of_pos_right less unitsInOne_pos)
  obtain ⟨digits, many, one⟩ := exists_eq_mul_keptDigit unitsInOne_eq_pow (by decide) below
  refine ⟨digits, keptDigit (part * unitsInOne / whole), many, one, ?_⟩
  have positive : 0 < keptDigit (part * unitsInOne / whole) := Nat.two_pow_pos _
  rw [roundUnits]
  generalize keptDigit (part * unitsInOne / whole) = digit at one positive ⊢
  have split : part * unitsInOne = digit * (part * digits) := by
    rw [one, Nat.mul_comm digit, Nat.mul_assoc]
  rw [split, Nat.mul_comm whole, roundQuotient_mul_mul positive]

/-- All of a whole is one. -/
theorem ofRatio_self (pos : 0 < whole) : ofRatio false whole whole = one := by
  have all := ofRatio_mul_mul pos false 1 1
  rw [Nat.mul_one] at all
  rw [all]
  decide +kernel

/-- A share that is not all is rounded to at most one, and below one if the whole has fewer than
`2^53` parts. -/
theorem roundUnits_share (less : part < whole) :
    roundUnits (part * unitsInOne) whole ≤ unitsInOne ∧
      (whole < 2 ^ 53 → roundUnits (part * unitsInOne) whole < unitsInOne) := by
  obtain ⟨digits, digit, many, one, rounded⟩ := exists_roundUnits_eq less
  have pos : 0 < digit := Nat.pos_of_mul_pos_left (one ▸ unitsInOne_pos)
  have up := roundQuotient_le (part * digits) whole
  rw [rounded, one]
  constructor
  · refine Nat.mul_le_mul_right digit (Nat.le_trans up ?_)
    exact Nat.div_lt_of_lt_mul (Nat.mul_lt_mul_of_pos_right less (by omega))
  · intro few
    refine Nat.mul_lt_mul_of_pos_right (Nat.lt_of_le_of_lt up ?_) pos
    -- The part is at least one short of the whole, hence by as many digits as one has.
    have next : part * digits + digits ≤ whole * digits := by
      rw [← Nat.succ_mul]
      exact Nat.mul_le_mul_right digits less
    have room : part * digits < whole * (digits - 1) := by
      rw [Nat.mul_sub_one]
      omega
    have := Nat.div_lt_of_lt_mul room
    omega

/-- A share is rounded to a number from zero to one. -/
theorem ofRatio_share (pos : 0 < whole) (le : part ≤ whole) :
    zero.le (ofRatio false part whole) = true ∧ (ofRatio false part whole).le one = true := by
  rcases Nat.eq_or_lt_of_le le with rfl | less
  · rw [ofRatio_self pos]
    exact one_share
  · have below := (roundUnits_share less).1
    have room := four_unitsInOne_lt_overflowUnits
    rw [ofRatio, ofUnits, if_pos (by omega)]
    simp only [Binary64.le, zero, one, rank?, decide_eq_true_eq]
    omega

/-- Of a whole with few parts, only all of it is rounded to one. -/
theorem ofRatio_eq_one_iff (pos : 0 < whole) (le : part ≤ whole) (few : whole < 2 ^ 53) :
    ofRatio false part whole = one ↔ part = whole := by
  refine ⟨fun same => ?_, fun all => by rw [all, ofRatio_self pos]⟩
  refine Nat.le_antisymm le (Nat.not_lt.1 fun less => ?_)
  have below := (roundUnits_share less).2 few
  have room := four_unitsInOne_lt_overflowUnits
  rw [ofRatio, ofUnits, if_pos (by omega), one, finite.injEq] at same
  omega

/-- The number nearest to one is one. -/
theorem nearest_one : nearest 1 = one :=
  ofRatio_self Nat.one_pos

/-- The number nearest to a rational share is a share. -/
theorem nearest_share {q : ℚ} (nonneg : 0 ≤ q) (le_one : q ≤ 1) :
    zero.le (nearest q) = true ∧ (nearest q).le one = true := by
  obtain ⟨part, number⟩ := Int.eq_ofNat_of_zero_le (Rat.num_nonneg.2 nonneg)
  have le : part ≤ q.den := by
    rw [← q.num_div_den, number, Int.cast_natCast,
      div_le_one₀ (Nat.cast_pos.2 q.den_pos)] at le_one
    exact_mod_cast le_one
  rw [nearest, decide_eq_false (not_lt.2 nonneg), number, Int.natAbs_natCast]
  exact ofRatio_share q.den_pos le

end Ensemble.Binary64
