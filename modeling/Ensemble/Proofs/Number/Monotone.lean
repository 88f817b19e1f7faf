import Ensemble.Proofs.Number.Difference
import Ensemble.Proofs.Number.Share
import Mathlib.Data.Nat.Log

/-!
# Rounding keeps the order

A smaller number is not rounded above a larger one (`nearest_le_nearest`).  Of two quotients with
the same last kept digit this is the rounding of the digits; otherwise there is a power of two
between them which is a multiple of both digits, and rounding does not go past a multiple of the
last kept digit (`le_roundUnits`, `roundUnits_le_of_lt`).

So a comparison of rounded numbers can only miss a difference, and only if the two numbers are
rounded to the same one (`nearest_lt_nearest_or_rank?_eq`).
-/

namespace Ensemble.Binary64

/-! ## Quotients -/

theorem le_roundQuotient (num den : Nat) : num / den ≤ roundQuotient num den := by
  simp only [roundQuotient]
  split
  next => exact Nat.le_refl _
  next => exact Nat.le_succ _

theorem roundQuotient_mono {num num' : Nat} (le : num ≤ num') (den : Nat) :
    roundQuotient num den ≤ roundQuotient num' den := by
  rcases Nat.lt_or_eq_of_le (Nat.div_le_div_right (c := den) le) with less | same
  · exact (roundQuotient_le num den).trans (Nat.le_trans less (le_roundQuotient num' den))
  · -- With one quotient, the smaller number has the smaller remainder, and is rounded up last.
    have remainders : num % den ≤ num' % den := by
      have := Nat.div_add_mod num den
      have := Nat.div_add_mod num' den
      rw [← same] at this
      omega
    simp only [roundQuotient, ← same]
    split
    next => split <;> omega
    next up =>
      rw [if_neg]
      simp only [Bool.or_eq_true, Bool.and_eq_true, decide_eq_true_eq, beq_iff_eq] at up ⊢
      omega

section Units

variable {num den power : Nat}

/-- Rounding does not go below a multiple of the last kept digit. -/
theorem le_roundUnits (multiple : keptDigit (num / den) ∣ power) (le : power ≤ num / den) :
    power ≤ roundUnits num den := by
  have pos : 0 < keptDigit (num / den) := Nat.two_pow_pos _
  rw [roundUnits]
  obtain ⟨digits, eq⟩ := multiple
  generalize keptDigit (num / den) = digit at eq pos ⊢
  have below : digits ≤ roundQuotient num (den * digit) :=
    calc digits ≤ num / den / digit := (Nat.le_div_iff_mul_le pos).2 (by rwa [Nat.mul_comm, ← eq])
      _ = num / (den * digit) := Nat.div_div_eq_div_mul ..
      _ ≤ roundQuotient num (den * digit) := le_roundQuotient ..
  rw [eq, Nat.mul_comm digit]
  exact Nat.mul_le_mul_right digit below

/-- Rounding does not go above a multiple of the last kept digit. -/
theorem roundUnits_le_of_lt (multiple : keptDigit (num / den) ∣ power) (less : num / den < power) :
    roundUnits num den ≤ power := by
  rw [roundUnits]
  obtain ⟨digits, eq⟩ := multiple
  generalize keptDigit (num / den) = digit at eq ⊢
  have above : roundQuotient num (den * digit) ≤ digits :=
    calc roundQuotient num (den * digit) ≤ num / (den * digit) + 1 := roundQuotient_le ..
      _ = num / den / digit + 1 := by rw [Nat.div_div_eq_div_mul]
      _ ≤ digits := Nat.div_lt_of_lt_mul (eq ▸ less)
  rw [eq, Nat.mul_comm digit]
  exact Nat.mul_le_mul_right digit above

end Units

/-- Of two magnitudes with different last kept digits, the first digit of the larger one is a
multiple of either digit. -/
theorem keptDigit_dvd {whole whole' : Nat} (less : keptDigit whole < keptDigit whole') :
    keptDigit whole ∣ 2 ^ whole'.log2 ∧ keptDigit whole' ∣ 2 ^ whole'.log2 ∧
      whole < 2 ^ whole'.log2 ∧ 2 ^ whole'.log2 ≤ whole' := by
  have exponents : whole.log2 - 52 < whole'.log2 - 52 :=
    (Nat.pow_lt_pow_iff_right (by decide)).1 less
  have pos : whole' ≠ 0 := by
    rintro rfl
    simp [Nat.log2_zero] at exponents
  refine ⟨Nat.pow_dvd_pow 2 (by omega), Nat.pow_dvd_pow 2 (by omega), ?_, Nat.log2_self_le pos⟩
  exact Nat.lt_log2_self.trans_le (Nat.pow_le_pow_right (by decide) (by omega))

theorem keptDigit_mono {whole whole' : Nat} (le : whole ≤ whole') :
    keptDigit whole ≤ keptDigit whole' := by
  have exponents : whole.log2 ≤ whole'.log2 := by
    rw [Nat.log2_eq_log_two, Nat.log2_eq_log_two]
    exact Nat.log_mono_right le
  exact Nat.pow_le_pow_right (by decide) (Nat.sub_le_sub_right exponents 52)

theorem roundUnits_mono {num num' : Nat} (le : num ≤ num') (den : Nat) :
    roundUnits num den ≤ roundUnits num' den := by
  have wholes : num / den ≤ num' / den := Nat.div_le_div_right le
  rcases Nat.lt_or_eq_of_le (keptDigit_mono wholes) with less | same
  · obtain ⟨left, right, above, below⟩ := keptDigit_dvd less
    exact (roundUnits_le_of_lt left above).trans (le_roundUnits right below)
  · rw [roundUnits, roundUnits, same]
    exact Nat.mul_le_mul_right _ (roundQuotient_mono le _)

/-! ## Rational numbers -/

/-- The magnitude that a rational number is rounded to; what is too large goes to an infinity. -/
def nearestUnits (q : ℚ) : Nat :=
  min (roundUnits (q.num.natAbs * unitsInOne) q.den) overflowUnits

theorem rank?_nearest (q : ℚ) :
    (nearest q).rank? = some (if q < 0 then -(nearestUnits q : Int) else nearestUnits q) := by
  rw [nearest, ofRatio, rank?_ofUnits]
  simp only [decide_eq_true_eq, nearestUnits]

theorem nearestUnits_mono {p q : ℚ} (le : |p| ≤ |q|) : nearestUnits p ≤ nearestUnits q := by
  have cross : q.den * p.num.natAbs ≤ p.den * q.num.natAbs := by
    rw [Rat.abs_def, Rat.abs_def, Rat.divInt_le_divInt (Int.natCast_pos.2 p.den_pos)
      (Int.natCast_pos.2 q.den_pos)] at le
    rw [Nat.mul_comm q.den, Nat.mul_comm p.den]
    exact_mod_cast le
  -- Over a common denominator rounding compares the numerators alone.
  refine min_le_min_right overflowUnits ?_
  calc roundUnits (p.num.natAbs * unitsInOne) p.den
      = roundUnits (q.den * (p.num.natAbs * unitsInOne)) (q.den * p.den) :=
        (roundUnits_mul_mul q.den_pos ..).symm
    _ ≤ roundUnits (p.den * (q.num.natAbs * unitsInOne)) (q.den * p.den) := by
        rw [← Nat.mul_assoc, ← Nat.mul_assoc]
        exact roundUnits_mono (Nat.mul_le_mul_right _ cross) _
    _ = roundUnits (p.den * (q.num.natAbs * unitsInOne)) (p.den * q.den) := by
        rw [Nat.mul_comm q.den]
    _ = roundUnits (q.num.natAbs * unitsInOne) q.den := roundUnits_mul_mul p.den_pos ..

/-- A smaller rational number is not rounded above a larger one. -/
theorem nearest_le_nearest {p q : ℚ} (le : p ≤ q) : (nearest p).le (nearest q) = true := by
  rw [Binary64.le, rank?_nearest, rank?_nearest, decide_eq_true_eq]
  by_cases negative : q < 0
  · rw [if_pos negative, if_pos (le.trans_lt negative)]
    have := nearestUnits_mono (abs_le_abs_of_nonpos negative.le le)
    omega
  · rw [if_neg negative]
    split
    next => omega
    next nonneg =>
      have := nearestUnits_mono (abs_le_abs_of_nonneg (not_lt.1 nonneg) le)
      omega

/-- A number that is rounded below another is less. -/
theorem lt_of_nearest_lt {p q : ℚ} (less : (nearest p).lt (nearest q) = true) : p < q := by
  refine not_le.1 fun le => ?_
  have order := nearest_le_nearest le
  rw [Binary64.le, rank?_nearest, rank?_nearest, decide_eq_true_eq] at order
  rw [lt_iff_of_rank? (rank?_nearest p) (rank?_nearest q)] at less
  omega

/-- A number that is less is rounded below the other, or to the same place. -/
theorem nearest_lt_or_rank?_eq {p q : ℚ} (less : p < q) :
    (nearest p).lt (nearest q) = true ∨ (nearest p).rank? = (nearest q).rank? := by
  have order := nearest_le_nearest less.le
  rw [Binary64.le, rank?_nearest, rank?_nearest, decide_eq_true_eq] at order
  rw [lt_iff_of_rank? (rank?_nearest p) (rank?_nearest q), rank?_nearest, rank?_nearest,
    Option.some.injEq]
  omega

end Ensemble.Binary64
