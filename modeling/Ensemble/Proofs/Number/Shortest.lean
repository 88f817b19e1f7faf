import Ensemble.Proofs.Number.Interval

/-!
# The shortest decimal reads back

A number is written with the fewest digits that round to it.  The search for them tries one grid of
decimals after the other, each ten times as fine as the one before, and on each the two neighbours
of the number.  On the grid of 17 digits more than the first one the lower neighbour is nearer than
the lower end of the interval of the number (`roundsTo_lowerNeighbour`), so the search succeeds
(`roundsTo_shortestFrom`) and its result is rounded to the number (`ofDecimal_shortest`).

The first grid is found from an estimate, which is never above the number
(`reaches_leadingExponent`).  A whole number is found on the grid of the whole numbers at the
latest, and no other number is rounded to from there (`exponent_shortest_nonneg_iff`).
-/

namespace Ensemble.Binary64

variable {units : Nat} {exponent : Int}

/-- What is less than half a unit is rounded to nothing. -/
theorem roundUnits_of_double_lt {num den : Nat} (less : 2 * num < den) :
    roundUnits num den = 0 := by
  have none : num / den = 0 := Nat.div_eq_of_lt (by omega)
  rw [roundUnits, none, keptDigit_of_lt (by decide), Nat.mul_one, Nat.mul_one, roundQuotient, none,
    Nat.mod_eq_of_lt (by omega), if_pos]
  rw [decide_eq_true less, Bool.true_or]

/-! ## The first grid -/

/-- Whether a power of ten is at most a magnitude. -/
def Reaches (units : Nat) (exponent : Int) : Prop :=
  10 ^ exponent.toNat * unitsInOne ≤ units * 10 ^ (-exponent).toNat

theorem reaches_iff :
    (compareQuarters ⟨1, exponent⟩ (4 * units) != .gt) = true ↔ Reaches units exponent := by
  rw [Decimal.compareQuarters_eq, Decimal.numerator, Decimal.denominator, Nat.one_mul, bne_iff_ne,
    ne_eq, Nat.compare_eq_gt, Nat.not_lt, Nat.mul_assoc 4]
  exact Nat.mul_le_mul_left_iff (by decide)

/-- Powers of ten below powers of two, by the logarithm of ten. -/
theorem ten_pow_le_two_pow {a b : Nat} (le : 103 * a ≤ 31 * b) : 10 ^ a ≤ 2 ^ b := by
  refine (Nat.pow_le_pow_iff_left (n := 31) (by decide)).1 ?_
  calc (10 ^ a) ^ 31 = (10 ^ 31) ^ a := Nat.pow_right_comm 10 a 31
    _ ≤ (2 ^ 103) ^ a := Nat.pow_le_pow_left (by decide) a
    _ = 2 ^ (103 * a) := (Nat.pow_mul 2 103 a).symm
    _ ≤ 2 ^ (31 * b) := Nat.pow_le_pow_right (by decide) le
    _ = (2 ^ b) ^ 31 := by rw [Nat.mul_comm, Nat.pow_mul]

/-- Powers of two below powers of ten, by the logarithm of two. -/
theorem two_pow_le_ten_pow {a b : Nat} (le : 28 * a ≤ 93 * b) : 2 ^ a ≤ 10 ^ b := by
  refine (Nat.pow_le_pow_iff_left (n := 93) (by decide)).1 ?_
  calc (2 ^ a) ^ 93 = (2 ^ 93) ^ a := Nat.pow_right_comm 2 a 93
    _ ≤ (10 ^ 28) ^ a := Nat.pow_le_pow_left (by decide) a
    _ = 10 ^ (28 * a) := (Nat.pow_mul 10 28 a).symm
    _ ≤ 10 ^ (93 * b) := Nat.pow_le_pow_right (by decide) le
    _ = (10 ^ b) ^ 93 := by rw [Nat.mul_comm, Nat.pow_mul]

theorem overflowUnits_eq_pow : overflowUnits = 2 ^ 2098 := by
  unfold overflowUnits
  generalize 2098 = exponent
  exact Nat.pow_eq

theorem log2_lt_of_lt_pow {bound power : Nat} (isPower : bound = 2 ^ power) (some : 0 < units)
    (less : units < bound) : units.log2 < power := by
  rwa [isPower, ← Nat.log2_lt (Nat.ne_of_gt some)] at less

theorem le_log2_of_pow_le {bound power : Nat} (isPower : bound = 2 ^ power) (some : 0 < units)
    (le : bound ≤ units) : power ≤ units.log2 := by
  rwa [isPower, ← Nat.le_log2 (Nat.ne_of_gt some)] at le

/-- A power of ten is at most a magnitude if an estimate from the first binary digit says so with
one decimal digit to spare. -/
theorem reaches_of_estimate (some : 0 < units) (small : units < overflowUnits)
    (estimate : exponent + 1 ≤ ((units.log2 : Int) - 1074) * 30103 / 100000) :
    Reaches units exponent := by
  have log : units.log2 < 2098 := log2_lt_of_lt_pow overflowUnits_eq_pow some small
  have least : 2 ^ units.log2 ≤ units := Nat.log2_self_le (Nat.ne_of_gt some)
  obtain ⟨one, isOne, power⟩ : ∃ one, one = 1074 ∧ unitsInOne = 2 ^ one :=
    ⟨1074, rfl, unitsInOne_eq_pow⟩
  rw [Reaches, power]
  -- A power of ten stands on one side of the inequality or on the other.
  rcases Int.lt_or_le exponent 0 with negative | nonneg
  · have down : 2 ^ (one - units.log2) ≤ 10 ^ (-exponent).toNat := two_pow_le_ten_pow (by omega)
    calc 10 ^ exponent.toNat * 2 ^ one = 2 ^ one := by
          rw [Int.toNat_of_nonpos (Int.le_of_lt negative), Nat.pow_zero, Nat.one_mul]
      _ ≤ 2 ^ (units.log2 + (one - units.log2)) := Nat.pow_le_pow_right (by decide) (by omega)
      _ = 2 ^ units.log2 * 2 ^ (one - units.log2) := Nat.pow_add ..
      _ ≤ units * 10 ^ (-exponent).toNat := Nat.mul_le_mul least down
  · have up : 10 ^ exponent.toNat ≤ 2 ^ (units.log2 - one) := ten_pow_le_two_pow (by omega)
    calc 10 ^ exponent.toNat * 2 ^ one ≤ 2 ^ (units.log2 - one) * 2 ^ one :=
          Nat.mul_le_mul_right _ up
      _ = 2 ^ (units.log2 - one + one) := (Nat.pow_add ..).symm
      _ = 2 ^ units.log2 := by rw [Nat.sub_add_cancel (by omega)]
      _ ≤ units * 1 := by rwa [Nat.mul_one]
      _ ≤ units * 10 ^ (-exponent).toNat := Nat.mul_le_mul_left _ (Nat.pow_pos (by decide))

/-- The first grid is not above the magnitude. -/
theorem reaches_leadingExponent (some : 0 < units) (small : units < overflowUnits) :
    Reaches units (leadingExponent units) := by
  simp only [leadingExponent]
  split
  next reached => exact reaches_iff.1 reached
  next =>
    split
    next reached => exact reaches_iff.1 reached
    next => exact reaches_of_estimate some small (by omega)

/-- From one on the first grid is one of whole numbers. -/
theorem leadingExponent_nonneg (large : unitsInOne ≤ units) : 0 ≤ leadingExponent units := by
  have log : 1074 ≤ units.log2 :=
    le_log2_of_pow_le unitsInOne_eq_pow (Nat.lt_of_lt_of_le unitsInOne_pos large) large
  simp only [leadingExponent]
  split
  next => omega
  next =>
    split
    next => omega
    next missed =>
      -- The estimate is not negative, and one is reached.
      have other : ((units.log2 : Int) - 1074) * 30103 / 100000 ≠ 0 := by
        intro zero
        rw [zero, reaches_iff] at missed
        exact missed (by simpa [Reaches] using large)
      omega

/-! ## Neighbours on a grid -/

theorem gridFloor_eq (units : Nat) (exponent : Int) :
    gridFloor units exponent =
      units * 10 ^ (-exponent).toNat / (unitsInOne * 10 ^ exponent.toNat) := by
  rw [gridFloor]
  split
  next whole =>
    rw [Int.toNat_of_nonpos (Int.neg_nonpos_of_nonneg whole), Nat.pow_zero, Nat.mul_one]
    rfl
  next small =>
    rw [Int.toNat_of_nonpos (Int.le_of_lt (Int.not_le.1 small)), Nat.pow_zero, Nat.mul_one]
    rfl

/-- The lower neighbour of a number on a grid. -/
def lowerNeighbour (units : Nat) (exponent : Int) : Decimal :=
  ⟨gridFloor units exponent, exponent⟩

/-- The lower neighbour is at most the number and less than one step of the grid below it. -/
theorem numerator_lowerNeighbour (units : Nat) (exponent : Int) :
    (lowerNeighbour units exponent).numerator * unitsInOne ≤
        units * (lowerNeighbour units exponent).denominator ∧
      units * (lowerNeighbour units exponent).denominator <
        (lowerNeighbour units exponent).numerator * unitsInOne +
          10 ^ exponent.toNat * unitsInOne := by
  have step : 0 < unitsInOne * 10 ^ exponent.toNat :=
    Nat.mul_pos unitsInOne_pos (Nat.pow_pos (by decide))
  have below := Nat.div_mul_le_self (units * 10 ^ (-exponent).toNat)
    (unitsInOne * 10 ^ exponent.toNat)
  have above := Nat.lt_div_mul_add (a := units * 10 ^ (-exponent).toNat) step
  rw [← gridFloor_eq, Nat.mul_comm unitsInOne, ← Nat.mul_assoc] at below above
  exact ⟨below, above⟩

/-- The interval of a number reaches further down than its 53rd digit is worth. -/
theorem le_lowerGap (units : Nat) : units ≤ 2 ^ 52 * lowerGap units := by
  have short := lt_keptDigit_mul units
  rw [lowerGap]
  split
  next first => rw [Nat.mul_comm]; exact Nat.le_of_eq first.1
  next => omega

/-- On the grid of 17 digits more than one that is not above the number, the lower neighbour is
rounded to the number. -/
theorem roundsTo_lowerNeighbour (some : 0 < units) (exact : keptDigit units ∣ units)
    (reaches : Reaches units (exponent + 17)) :
    roundsTo units (lowerNeighbour units exponent) = true := by
  obtain ⟨below, above⟩ := numerator_lowerNeighbour units exponent
  have step : 10 ^ 17 * (10 ^ exponent.toNat * unitsInOne) ≤
      units * (lowerNeighbour units exponent).denominator := by
    have powers : exponent.toNat + 17 + (-(exponent + 17)).toNat =
        (exponent + 17).toNat + (-exponent).toNat := by omega
    refine Nat.le_of_mul_le_mul_right ?_ (Nat.pow_pos (n := (-(exponent + 17)).toNat)
      (by decide : 0 < 10))
    rw [Reaches] at reaches
    generalize unitsInOne = one at reaches ⊢
    calc 10 ^ 17 * (10 ^ exponent.toNat * one) * 10 ^ (-(exponent + 17)).toNat
        = 10 ^ (exponent.toNat + 17 + (-(exponent + 17)).toNat) * one := by
          rw [Nat.pow_add, Nat.pow_add]
          ac_rfl
      _ = 10 ^ (exponent + 17).toNat * one * 10 ^ (-exponent).toNat := by
          rw [powers, Nat.pow_add]
          ac_rfl
      _ ≤ units * 10 ^ (-(exponent + 17)).toNat * 10 ^ (-exponent).toNat :=
          Nat.mul_le_mul_right _ reaches
      _ = units * (lowerNeighbour units exponent).denominator * 10 ^ (-(exponent + 17)).toNat :=
          Nat.mul_right_comm ..
  have gap : units * (lowerNeighbour units exponent).denominator ≤
      2 ^ 52 * (lowerGap units * (lowerNeighbour units exponent).denominator) := by
    rw [← Nat.mul_assoc]
    exact Nat.mul_le_mul_right _ (le_lowerGap units)
  have fits : lowerGap units ≤ 4 * units := by
    have := Nat.le_of_dvd some exact
    have := lowerGap_le units
    omega
  have digit : 0 < keptDigit units * (lowerNeighbour units exponent).denominator :=
    Nat.mul_pos (keptDigit_pos units) (Decimal.denominator_pos _)
  rw [roundsTo_iff, Nat.sub_mul, Nat.add_mul, Nat.mul_assoc 4, Nat.mul_assoc 2]
  have := Nat.mul_le_mul_right (lowerNeighbour units exponent).denominator fits
  rw [Nat.mul_assoc] at this
  omega

/-! ## The search -/

/-- What a step of the search finds is rounded to the number. -/
theorem shortestFrom_succ (units : Nat) (top : Int) (tries count : Nat) :
    roundsTo units (shortestFrom units top (tries + 1) count) = true ∧
        (shortestFrom units top (tries + 1) count).exponent = top - count ∨
      roundsTo units (lowerNeighbour units (top - count)) = false ∧
        shortestFrom units top (tries + 1) count = shortestFrom units top tries (count + 1) := by
  rw [shortestFrom]
  simp only [lowerNeighbour]
  split
  next lower upper =>
    left
    split
    next => exact ⟨upper, rfl⟩
    next => exact ⟨lower, rfl⟩
  next lower upper => exact .inl ⟨lower, rfl⟩
  next lower upper => exact .inl ⟨upper, rfl⟩
  -- Neither neighbour rounds to the number: one more digit is tried.
  next lower upper => exact .inr ⟨lower, rfl⟩

/-- If one of the grids has a neighbour that is rounded to the number, one is found. -/
theorem roundsTo_shortestFrom {top : Int} {tries count : Nat}
    (found : ∃ later < tries,
      roundsTo units (lowerNeighbour units (top - (count + later : Nat))) = true) :
    roundsTo units (shortestFrom units top tries count) = true := by
  induction tries generalizing count with
  | zero =>
    obtain ⟨later, none, -⟩ := found
    exact absurd none (Nat.not_lt_zero later)
  | succ tries ih =>
    -- The search may stop before the digits that are known to round, but only at others that do.
    rcases shortestFrom_succ units top tries count with ⟨here, -⟩ | ⟨missed, further⟩
    · exact here
    · rw [further]
      obtain ⟨later, few, rounds⟩ := found
      cases later with
      | zero => rw [Nat.add_zero, missed] at rounds; cases rounds
      | succ later =>
        exact ih ⟨later, Nat.lt_of_succ_lt_succ few, by rwa [Nat.succ_add_eq_add_succ]⟩

/-- A whole number is found on a grid of whole numbers. -/
theorem exponent_shortestFrom_nonneg {top : Int} {tries count : Nat} (starts : 0 ≤ top - count)
    (whole : roundsTo units (lowerNeighbour units 0) = true) :
    0 ≤ (shortestFrom units top tries count).exponent := by
  induction tries generalizing count with
  | zero => exact starts
  | succ tries ih =>
    rcases shortestFrom_succ units top tries count with ⟨-, here⟩ | ⟨missed, further⟩
    · rwa [here]
    · rw [further]
      refine ih ?_
      have other : top - count ≠ 0 := by
        intro zero
        rw [zero, whole] at missed
        cases missed
      omega

/-! ## Zeros at the end -/

/-- Decimals with the same value are rounded to the same number. -/
theorem ofDecimal_congr (d d' : Decimal)
    (same : d.numerator * d'.denominator = d'.numerator * d.denominator) (negative : Bool) :
    ofDecimal negative d.digits d.exponent = ofDecimal negative d'.digits d'.exponent := by
  rw [d.ofDecimal_eq, d'.ofDecimal_eq, ← ofRatio_mul_mul d'.denominator_pos,
    ← ofRatio_mul_mul d.denominator_pos negative d'.numerator, Nat.mul_comm d'.denominator, same,
    Nat.mul_comm d.denominator, Nat.mul_comm d.denominator]

/-- Zeros at the end of the digits can be moved into the exponent. -/
theorem ofDecimal_mul_ten (negative : Bool) (digits : Nat) (exponent : Int) :
    ofDecimal negative (digits * 10) exponent = ofDecimal negative digits (exponent + 1) := by
  refine ofDecimal_congr ⟨digits * 10, exponent⟩ ⟨digits, exponent + 1⟩ ?_ negative
  have powers : 1 + exponent.toNat + (-(exponent + 1)).toNat =
      (exponent + 1).toNat + (-exponent).toNat := by omega
  calc digits * 10 * 10 ^ exponent.toNat * 10 ^ (-(exponent + 1)).toNat
      = digits * 10 ^ (1 + exponent.toNat + (-(exponent + 1)).toNat) := by
        rw [Nat.pow_add, Nat.pow_add, Nat.pow_one]
        ac_rfl
    _ = digits * 10 ^ (exponent + 1).toNat * 10 ^ (-exponent).toNat := by
        rw [powers, Nat.pow_add, Nat.mul_assoc]

theorem dropZeros_spec (fuel : Nat) (d : Decimal) (negative : Bool) :
    d.exponent ≤ (dropZeros fuel d).exponent ∧
      ofDecimal negative (dropZeros fuel d).digits (dropZeros fuel d).exponent =
        ofDecimal negative d.digits d.exponent := by
  induction fuel generalizing d with
  | zero => exact ⟨Int.le_refl _, rfl⟩
  | succ fuel ih =>
    rw [dropZeros]
    split
    next ends =>
      rw [Bool.and_eq_true, beq_iff_eq] at ends
      obtain ⟨above, same⟩ := ih ⟨d.digits / 10, d.exponent + 1⟩
      have digits : d.digits / 10 * 10 = d.digits :=
        Nat.div_mul_cancel (Nat.dvd_of_mod_eq_zero ends.1)
      rw [same, ← ofDecimal_mul_ten, digits]
      exact ⟨Int.le_trans (Int.le_add_of_nonneg_right (by decide)) above, rfl⟩
    next => exact ⟨Int.le_refl _, rfl⟩

/-! ## The shortest decimal -/

/-- The shortest decimal of a number is rounded to it. -/
theorem ofDecimal_shortest (negative : Bool) (valid : (finite negative units).IsRepresentable) :
    ofDecimal negative (shortest units).digits (shortest units).exponent =
      finite negative units := by
  rw [shortest]
  split
  next zero =>
    have nothing : roundUnits (0 * unitsInOne) 1 = 0 := roundUnits_of_double_lt (by simp)
    have decimal := Decimal.ofDecimal_eq negative ⟨0, 0⟩
    rw [Decimal.numerator, Decimal.denominator, Nat.zero_mul, Int.neg_zero, Int.toNat_zero,
      Nat.pow_zero, ofRatio, nothing, ofUnits, if_pos overflowUnits_pos] at decimal
    rw [beq_iff_eq.1 zero, decimal]
  next other =>
    have some : 0 < units := Nat.pos_of_ne_zero fun zero => other (beq_iff_eq.2 zero)
    obtain ⟨exact, small⟩ := valid
    rw [(dropZeros_spec ..).2]
    refine ofDecimal_of_roundsTo exact small (roundsTo_shortestFrom ⟨17, by decide, ?_⟩) negative
    refine roundsTo_lowerNeighbour some exact ?_
    rw [Nat.zero_add, Nat.cast_ofNat, Int.sub_add_cancel]
    exact reaches_leadingExponent some small

/-! ## Whole numbers -/

/-- A whole number is rounded to a whole number. -/
theorem unitsInOne_dvd_roundUnits (n : Nat) : unitsInOne ∣ roundUnits (n * unitsInOne) 1 := by
  rw [roundUnits, Nat.one_mul]
  have pos := keptDigit_pos (n * unitsInOne / 1)
  -- Both are powers of two, hence one of them divides the other.
  have powers : unitsInOne ∣ keptDigit (n * unitsInOne / 1) ∨
      keptDigit (n * unitsInOne / 1) ∣ unitsInOne := by
    rw [keptDigit]
    generalize (n * unitsInOne / 1).log2 - 52 = exponent
    obtain ⟨one, power⟩ : ∃ one, unitsInOne = 2 ^ one := ⟨_, unitsInOne_eq_pow⟩
    rw [power]
    rcases Nat.le_total one exponent with le | le
    · exact .inl (Nat.pow_dvd_pow 2 le)
    · exact .inr (Nat.pow_dvd_pow 2 le)
  generalize keptDigit (n * unitsInOne / 1) = digit at pos powers ⊢
  rcases powers with multiple | part
  · exact Nat.dvd_mul_left_of_dvd multiple _
  · obtain ⟨digits, split⟩ := Nat.dvd_mul_left_of_dvd part n
    rw [split, Nat.mul_comm digit, roundQuotient_mul _ _ pos, Nat.mul_comm digits, ← split]
    exact Nat.dvd_mul_left ..

/-- A whole number is itself on the grid of the whole numbers. -/
theorem roundsTo_lowerNeighbour_zero (some : 0 < units) (multiple : unitsInOne ∣ units) :
    roundsTo units (lowerNeighbour units 0) = true := by
  have value : (lowerNeighbour units 0).numerator * unitsInOne = units := by
    rw [Decimal.numerator, lowerNeighbour, gridFloor_eq, Int.neg_zero, Int.toNat_zero, Nat.pow_zero,
      Nat.mul_one, Nat.mul_one, Nat.mul_one]
    exact Nat.div_mul_cancel multiple
  have one : (lowerNeighbour units 0).denominator = 1 := rfl
  have gap := le_lowerGap units
  have digit := keptDigit_pos units
  rw [roundsTo_iff, value, one]
  omega

/-- The whole numbers, and no others, have a shortest decimal without a fraction. -/
theorem exponent_shortest_nonneg_iff (valid : (finite false units).IsRepresentable) :
    0 ≤ (shortest units).exponent ↔ unitsInOne ∣ units := by
  constructor
  · intro whole
    have rounded := ofDecimal_shortest false valid
    rw [ofDecimal, if_pos whole, ofRatio, ofUnits] at rounded
    split at rounded
    next =>
      rw [← (finite.inj rounded).2]
      exact unitsInOne_dvd_roundUnits _
    next => cases rounded
  · intro multiple
    rw [shortest]
    split
    next => exact Int.le_refl 0
    next other =>
      have some : 0 < units := Nat.pos_of_ne_zero fun zero => other (beq_iff_eq.2 zero)
      have top : 0 ≤ leadingExponent units := leadingExponent_nonneg (Nat.le_of_dvd some multiple)
      refine Int.le_trans (exponent_shortestFrom_nonneg ?_ ?_) (dropZeros_spec _ _ false).1
      · omega
      · exact roundsTo_lowerNeighbour_zero some multiple

end Ensemble.Binary64
