import Ensemble.Proofs.Number

/-!
# Differences of numbers

The difference of two finite numbers is computed exactly and then rounded, and rounding looks at the
magnitude alone.  So the place of a rounded difference in the order is the rounded difference of the
places (`rank?_sub`), and exchanging the two numbers changes nothing but its sign
(`roundedRank_neg`).
-/

namespace Ensemble.Binary64

theorem rank?_finite (negative : Bool) (units : Nat) :
    (finite negative units).rank? = some (if negative then -(units : Int) else units) := by
  cases negative <;> rfl

/-- A finite number has a place in the order. -/
theorem exists_rank? {x : Binary64} (finite : x.isFinite = true) : ∃ r, x.rank? = some r := by
  cases x with
  | nan | infinite => cases finite
  | finite negative units => exact ⟨_, rank?_finite negative units⟩

/-- Only the undefined number has no place in the order. -/
theorem rank?_eq_none_iff {x : Binary64} : x.rank? = none ↔ x = nan := by
  cases x with
  | nan => exact iff_of_true rfl rfl
  | infinite negative =>
    cases negative <;> exact iff_of_false (Option.some_ne_none _) nofun
  | finite negative units =>
    rw [rank?_finite]
    exact iff_of_false (Option.some_ne_none _) nofun

/-! ## Order by places -/

variable {x y : Binary64} {r s : Int}

theorem lt_iff_of_rank? (hx : x.rank? = some r) (hy : y.rank? = some s) :
    x.lt y = true ↔ r < s := by
  rw [lt, hx, hy, decide_eq_true_iff]

/-- Nothing is less than the undefined number. -/
theorem lt_nan_right (x : Binary64) : x.lt nan = false := by
  unfold lt
  split
  next h => cases h
  next => rfl

theorem rank?_neg_of_rank? (hx : x.rank? = some r) : x.neg.rank? = some (-r) := by
  rw [rank?_neg, hx, Option.map_some]

/-! ## Rounded places -/

/-- The place that a number of units is rounded to; what is too large goes to an infinity. -/
def roundedRank (units : Int) : Int :=
  units.sign * (min (roundUnits units.natAbs 1) overflowUnits : Nat)

theorem roundedRank_neg (units : Int) : roundedRank (-units) = -roundedRank units := by
  rw [roundedRank, roundedRank, Int.sign_neg, Int.natAbs_neg, Int.neg_mul]

theorem roundedRank_zero : roundedRank 0 = 0 := Int.zero_mul _

/-- What is rounded to a negative place is negative. -/
theorem neg_of_roundedRank_neg {units : Int} (h : roundedRank units < 0) : units < 0 := by
  refine Int.not_le.1 fun nonneg => Int.not_le.2 h (Int.mul_nonneg ?_ (Int.natCast_nonneg _))
  exact Int.sign_nonneg_iff.2 nonneg

theorem rank?_ofUnits (negative : Bool) (units : Nat) :
    (ofUnits negative units).rank? =
      some (if negative then -((min units overflowUnits : Nat) : Int)
        else (min units overflowUnits : Nat)) := by
  rw [ofUnits]
  split
  next small => rw [rank?_finite, Nat.min_eq_left (Nat.le_of_lt small)]
  next large =>
    rw [Nat.min_eq_right (Nat.not_lt.1 large)]
    cases negative <;> rfl

/-- The place of a difference is the rounded difference of the places. -/
theorem rank?_sub (finiteLeft : x.isFinite = true) (finiteRight : y.isFinite = true)
    (hx : x.rank? = some r) (hy : y.rank? = some s) :
    (x.sub y).rank? = some (roundedRank (r - s)) := by
  cases x with
  | nan | infinite => cases finiteLeft
  | finite negative units =>
    cases y with
    | nan | infinite => cases finiteRight
    | finite negative' units' =>
      rw [rank?_finite, Option.some.injEq] at hx hy
      simp only [sub, hx, hy, beq_iff_eq]
      split
      -- Equal numbers differ by a zero, whose sign does not count.
      next same => rw [same, rank?_finite, roundedRank_zero, Int.ofNat_zero, Int.neg_zero, ite_self]
      next other =>
        rw [rank?_ofUnits, roundedRank, Option.some.injEq]
        rcases Int.lt_or_gt_of_ne other with below | above
        · rw [if_pos (decide_eq_true below), Int.sign_eq_neg_one_of_neg below, Int.neg_one_mul]
        · rw [if_neg (by simpa using Int.le_of_lt above), Int.sign_eq_one_of_pos above, Int.one_mul]

end Ensemble.Binary64
