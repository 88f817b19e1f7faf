import Ensemble.Number.Binary64

/-!
# Numbers that stay finite

A finite number has a magnitude below `overflowUnits`, far above one.  Rounding does no more than
double a magnitude, up to one unit (`roundUnits_le`), so that a quotient of at most one is finite
(`isFinite_ofRatio`).  So is every number from zero to one, since the infinities lie outside and the
undefined number has no place in the order.
-/

namespace Ensemble.Binary64

theorem unitsInOne_pos : 0 < unitsInOne := by
  unfold unitsInOne
  apply Nat.two_pow_pos

/-- There is room for much more than twice the magnitude of one. -/
theorem four_unitsInOne_lt_overflowUnits : 4 * unitsInOne < overflowUnits := by
  have far : 2 + 1074 < 2098 := by decide
  unfold unitsInOne overflowUnits
  -- Nothing evaluates a power with a variable for its exponent.
  generalize 1074 = a, 2098 = b at far ⊢
  calc 4 * 2 ^ a = 2 ^ (2 + a) := (Nat.pow_add 2 2 a).symm
    _ < 2 ^ b := Nat.pow_lt_pow_right (by decide) far

theorem overflowUnits_pos : 0 < overflowUnits :=
  Nat.lt_of_le_of_lt (Nat.zero_le _) four_unitsInOne_lt_overflowUnits

/-! ## Rounding -/

theorem roundQuotient_le (num den : Nat) : roundQuotient num den ≤ num / den + 1 := by
  simp only [roundQuotient]
  split
  next => exact Nat.le_succ _
  next => exact Nat.le_refl _

/-- The last kept digit of a magnitude is not above its first one. -/
theorem keptDigit_le (whole : Nat) : keptDigit whole ≤ whole + 1 := by
  rcases Nat.eq_zero_or_pos whole with rfl | pos
  · exact Nat.le_refl 1
  · calc keptDigit whole ≤ 2 ^ whole.log2 := Nat.pow_le_pow_right (by decide) (Nat.sub_le _ _)
      _ ≤ whole := Nat.log2_self_le (Nat.ne_of_gt pos)
      _ ≤ whole + 1 := Nat.le_succ whole

/-- Rounding at most doubles a magnitude, up to one unit. -/
theorem roundUnits_le (num den : Nat) : roundUnits num den ≤ 2 * (num / den) + 1 := by
  let digit := keptDigit (num / den)
  have kept : num / (den * digit) * digit ≤ num / den := by
    rw [← Nat.div_div_eq_div_mul]
    exact Nat.div_mul_le_self _ _
  calc roundUnits num den ≤ (num / (den * digit) + 1) * digit :=
        Nat.mul_le_mul_right digit (roundQuotient_le num (den * digit))
    _ = num / (den * digit) * digit + digit := Nat.succ_mul _ _
    _ ≤ num / den + (num / den + 1) := Nat.add_le_add kept (keptDigit_le _)
    _ = 2 * (num / den) + 1 := by omega

/-! ## Finite numbers -/

/-- A quotient of at most one is rounded to a finite number. -/
theorem isFinite_ofRatio {num den : Nat} (h : num ≤ den) (negative : Bool) :
    (ofRatio negative num den).isFinite = true := by
  have share : num * unitsInOne / den ≤ unitsInOne :=
    Nat.div_le_of_le_mul (Nat.mul_le_mul_right _ h)
  have rounded : roundUnits (num * unitsInOne) den < overflowUnits :=
    calc roundUnits (num * unitsInOne) den ≤ 2 * (num * unitsInOne / den) + 1 := roundUnits_le _ _
      _ ≤ 4 * unitsInOne := by have := unitsInOne_pos; omega
      _ < overflowUnits := four_unitsInOne_lt_overflowUnits
  rw [ofRatio, ofUnits, if_pos rounded]
  rfl

theorem zero_share : zero.le zero = true ∧ zero.le one = true := by
  simp only [le, zero, one, rank?, decide_eq_true_eq]
  omega

theorem one_share : zero.le one = true ∧ one.le one = true := by
  simp only [le, zero, one, rank?, decide_eq_true_eq]
  omega

/-- A positive infinity is above one. -/
theorem infinite_not_le_one : (infinite false).le one = false := by
  have room := four_unitsInOne_lt_overflowUnits
  simp only [le, one, rank?, decide_eq_false_iff_not]
  omega

/-- A negative infinity is below zero. -/
theorem zero_not_le_infinite : zero.le (infinite true) = false := by
  have room := four_unitsInOne_lt_overflowUnits
  simp only [le, zero, rank?, decide_eq_false_iff_not]
  omega

/-- A number from zero to one is finite. -/
theorem isFinite_of_share {x : Binary64} (low : zero.le x = true) (high : x.le one = true) :
    x.isFinite = true := by
  cases x with
  | nan => cases high
  | infinite negative =>
    cases negative with
    | true => rw [zero_not_le_infinite] at low; cases low
    | false => rw [infinite_not_le_one] at high; cases high
  | finite => rfl

/-- What is less is not above. -/
theorem le_of_lt {x y : Binary64} (h : x.lt y = true) : x.le y = true := by
  unfold lt at h
  unfold le
  split at h
  next => exact decide_eq_true (Int.le_of_lt (of_decide_eq_true h))
  next => cases h

/-- Of two numbers that are defined, one is not above the other. -/
theorem le_of_not_lt {x y : Binary64} (hx : x ≠ nan) (hy : y ≠ nan) (h : x.lt y = false) :
    y.le x = true := by
  have ranked : ∀ {z : Binary64}, z ≠ nan → ∃ r, z.rank? = some r := by
    intro z hz
    cases z with
    | nan => exact absurd rfl hz
    | infinite negative => cases negative <;> exact ⟨_, rfl⟩
    | finite negative => cases negative <;> exact ⟨_, rfl⟩
  obtain ⟨a, ha⟩ := ranked hx
  obtain ⟨b, hb⟩ := ranked hy
  rw [lt, ha, hb] at h
  rw [le, ha, hb]
  exact decide_eq_true (Int.not_lt.1 (of_decide_eq_false h))

end Ensemble.Binary64
