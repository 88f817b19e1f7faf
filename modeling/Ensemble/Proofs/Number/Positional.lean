import Ensemble.Proofs.Number.Digits
import Ensemble.Proofs.Number.Literal
import Ensemble.Proofs.Number.Shortest

/-!
# Decimals with a point read back

A decimal written out has digits before a point and digits after it (`Positional`).  Reading it
takes the digits together as one number and the count of those after the point as its exponent
(`ofLiteral?_text`); the bounds on the size of a literal do not change what it denotes
(`nearestDecimal_eq`).

A decimal without an exponent is written in this form (`exists_text_eq`), once a fraction stands
after a whole number (`exists_text_eq_append`).
-/

namespace Ensemble.Binary64

variable {digits : List Char} {exponent : Int}

/-! ## Literals of any size -/

/-- Numbers with as many digits as that are infinite. -/
theorem ofRatio_of_large {num den : Nat} (zeros : Nat) (many : 400 ≤ zeros) (pos : 0 < den)
    (large : 10 ^ zeros * den ≤ num) (negative : Bool) :
    ofRatio negative num den = infinite negative := by
  obtain ⟨one, isOne, unit⟩ : ∃ one, one = 1074 ∧ unitsInOne = 2 ^ one :=
    ⟨1074, rfl, unitsInOne_eq_pow⟩
  obtain ⟨top, isTop, bound⟩ : ∃ top, top = 2098 ∧ overflowUnits = 2 ^ top :=
    ⟨2098, rfl, overflowUnits_eq_pow⟩
  have whole : 2 ^ top ≤ num * unitsInOne / den := by
    refine (Nat.le_div_iff_mul_le pos).2 ?_
    calc 2 ^ top * den = 2 ^ (top - one) * 2 ^ one * den := by
          rw [← Nat.pow_add, Nat.sub_add_cancel (by omega)]
      _ ≤ 10 ^ zeros * 2 ^ one * den := by
          refine Nat.mul_le_mul_right den (Nat.mul_le_mul_right _ ?_)
          exact two_pow_le_ten_pow (by omega)
      _ = 10 ^ zeros * den * 2 ^ one := Nat.mul_right_comm ..
      _ ≤ num * unitsInOne := by
          rw [unit]
          exact Nat.mul_le_mul_right _ large
  -- Rounding does not go below the first binary digit.
  have rounded : 2 ^ top ≤ roundUnits (num * unitsInOne) den := by
    generalize num * unitsInOne = units at whole ⊢
    have some : 0 < units / den := Nat.lt_of_lt_of_le (Nat.two_pow_pos top) whole
    calc 2 ^ top ≤ 2 ^ (units / den).log2 :=
          Nat.pow_le_pow_right (by decide) (le_log2_of_pow_le rfl some whole)
      _ ≤ roundUnits units den :=
        le_roundUnits (Nat.pow_dvd_pow 2 (Nat.sub_le ..)) (Nat.log2_self_le (Nat.ne_of_gt some))
  rw [ofRatio, ofUnits, bound, if_neg (Nat.not_lt.2 rounded)]

/-- Numbers with as many zeros after the point as that are zero. -/
theorem ofRatio_of_small {num den : Nat} (zeros : Nat) (many : 400 ≤ zeros)
    (small : num * 10 ^ zeros < den) (negative : Bool) :
    ofRatio negative num den = finite negative 0 := by
  obtain ⟨one, isOne, unit⟩ : ∃ one, one = 1074 ∧ unitsInOne = 2 ^ one :=
    ⟨1074, rfl, unitsInOne_eq_pow⟩
  have rounded : roundUnits (num * unitsInOne) den = 0 := by
    refine roundUnits_of_double_lt (Nat.lt_of_le_of_lt ?_ small)
    calc 2 * (num * unitsInOne) = num * 2 ^ (one + 1) := by
          rw [unit, Nat.pow_succ', Nat.mul_left_comm]
      _ ≤ num * 10 ^ zeros := Nat.mul_le_mul_left num (two_pow_le_ten_pow (by omega))
  rw [ofRatio, rounded, ofUnits, if_pos overflowUnits_pos]

/-- Digits that start far after the point are rounded to nothing. -/
theorem ofDecimal_of_small (all : ∀ c ∈ digits, c.isDigit = true)
    (small : digits.length + exponent < -400) (negative : Bool) :
    ofDecimal negative (Digits.toNat digits) exponent = finite negative 0 := by
  refine (Decimal.ofDecimal_eq negative ⟨_, exponent⟩).trans (ofRatio_of_small
    (-(digits.length + exponent)).toNat (by omega) ?_ negative)
  calc Digits.toNat digits * 10 ^ exponent.toNat * 10 ^ (-(digits.length + exponent)).toNat
      = Digits.toNat digits * 10 ^ (exponent.toNat + (-(digits.length + exponent)).toNat) := by
        rw [Nat.mul_assoc, Nat.pow_add]
    _ < 10 ^ digits.length * 10 ^ (exponent.toNat + (-(digits.length + exponent)).toNat) :=
        Nat.mul_lt_mul_of_pos_right (Digits.toNat_lt all) (Nat.pow_pos (by decide))
    _ = 10 ^ (digits.length + (exponent.toNat + (-(digits.length + exponent)).toNat)) :=
        (Nat.pow_add ..).symm
    _ = 10 ^ (-exponent).toNat := congrArg (10 ^ ·) (by omega)

/-- Digits that start far before the point are too large for a finite number. -/
theorem ofDecimal_of_large {c : Char} (digit : c.isDigit = true) (other : c ≠ '0')
    (large : 400 < digits.length + 1 + exponent) (negative : Bool) :
    ofDecimal negative (Digits.toNat (c :: digits)) exponent = infinite negative := by
  refine (Decimal.ofDecimal_eq negative ⟨_, exponent⟩).trans (ofRatio_of_large
    (digits.length + exponent).toNat (by omega) (Nat.pow_pos (by decide)) ?_ negative)
  calc 10 ^ (digits.length + exponent).toNat * 10 ^ (-exponent).toNat
      = 10 ^ ((digits.length + exponent).toNat + (-exponent).toNat) := (Nat.pow_add ..).symm
    _ = 10 ^ (digits.length + exponent.toNat) := congrArg (10 ^ ·) (by omega)
    _ = 10 ^ digits.length * 10 ^ exponent.toNat := Nat.pow_add ..
    _ ≤ Digits.toNat (c :: digits) * 10 ^ exponent.toNat :=
      Nat.mul_le_mul_right _ (Digits.le_toNat digit other digits)

/-- Where the size of a literal decides its value on its own, it decides it rightly. -/
theorem nearestDecimal_eq (negative : Bool) (all : ∀ c ∈ digits, c.isDigit = true)
    (exponent : Int) :
    nearestDecimal negative digits exponent =
      ofDecimal negative (Digits.toNat digits) exponent := by
  have value := Digits.toNat_dropWhile digits
  -- without its leading zeros the number starts with another digit
  have leading : ∀ c ∈ (digits.dropWhile (· == '0')).head?, c ≠ '0' := by
    intro c mem
    have other := List.head?_dropWhile_not (· == '0') digits
    rw [Option.mem_def.1 mem] at other
    simpa using other
  have all : ∀ c ∈ digits.dropWhile (· == '0'), c.isDigit = true := fun c mem =>
    all c ((List.dropWhile_suffix _).mem mem)
  rw [nearestDecimal, ← value]
  generalize digits.dropWhile (· == '0') = significant at leading all ⊢
  obtain - | ⟨c, rest⟩ := significant
  · -- nothing but zeros is zero, whatever the exponent
    refine ((Decimal.ofDecimal_eq negative ⟨Digits.toNat [], exponent⟩).trans
      (ofRatio_of_small 400 (Nat.le_refl _) ?_ negative)).symm
    have none : (Decimal.mk (Digits.toNat []) exponent).numerator = 0 := Nat.zero_mul _
    rw [none, Nat.zero_mul]
    exact Decimal.denominator_pos _
  · simp only [List.isEmpty_cons, Bool.false_or, decide_eq_true_eq]
    split
    next small => exact (ofDecimal_of_small all small negative).symm
    next =>
      split
      next large =>
        rw [List.forall_mem_cons] at all
        exact (ofDecimal_of_large all.1 (leading c rfl) large negative).symm
      next => rfl

/-! ## Digits before and after a point -/

/-- A decimal that is written out. -/
structure Positional where
  whole : List Char
  fraction : List Char
  isWhole : Digits.IsWhole whole
  isDigit_fraction : ∀ c ∈ fraction, c.isDigit = true
  fraction_ne_nil : fraction ≠ []

namespace Positional

variable (p : Positional)

/-- The digits with the point between them. -/
def text : List Char :=
  p.whole ++ '.' :: p.fraction

/-- The number nearest to a decimal that is written out. -/
def value (negative : Bool) : Binary64 :=
  ofDecimal negative (Digits.toNat (p.whole ++ p.fraction)) (-p.fraction.length)

/-- A decimal that is written out starts with a digit. -/
theorem exists_text_eq_cons : ∃ c rest, p.text = c :: rest ∧ c.isDigit = true := by
  obtain ⟨c, rest, cons, digit⟩ := p.isWhole.exists_eq_cons
  exact ⟨c, rest ++ '.' :: p.fraction, by rw [text, cons]; rfl, digit⟩

/-- What follows a number follows its fraction. -/
theorem text_append (rest : List Char) : p.text ++ rest = p.whole ++ '.' :: (p.fraction ++ rest) :=
  List.append_assoc ..

/-- The text of a number is read as its value. -/
theorem unsignedLiteral?_text (negative : Bool) :
    unsignedLiteral? negative p.text = some (p.value negative) := by
  have whole : Digits.span (p.whole ++ '.' :: p.fraction) = (p.whole, '.' :: p.fraction) :=
    Digits.span_append p.isWhole.isDigit (by rintro c ⟨⟩; rfl)
  -- the fraction is the last part, so its digits end with the text
  have fraction : Digits.span p.fraction = (p.fraction, []) := by
    have ended : Digits.span (p.fraction ++ []) = (p.fraction, []) :=
      Digits.span_append p.isDigit_fraction nofun
    rwa [List.append_nil] at ended
  have all : ∀ c ∈ p.whole ++ p.fraction, c.isDigit = true :=
    List.forall_mem_append.2 ⟨p.isWhole.isDigit, p.isDigit_fraction⟩
  rw [unsignedLiteral?, text, whole]
  simp only [fraction, List.isEmpty_eq_false_iff.2 p.isWhole.ne_nil, Bool.false_and,
    Bool.false_eq_true, if_false, Option.map_some, Int.zero_sub]
  rw [nearestDecimal_eq negative all, value]

/-- A text with a point is none of the words for a number. -/
theorem asciiLower_text_ne (word : List Char) (plain : '.' ∉ word) :
    (Text.asciiLower p.text == word) = false := by
  refine beq_eq_false_iff_ne.2 ?_
  rintro rfl
  exact plain (List.mem_map.2 ⟨'.', List.mem_append_right _ List.mem_cons_self, rfl⟩)

/-- A decimal that is written out is read as the number nearest to it. -/
theorem ofLiteral?_text (negative : Bool) :
    ofLiteral? (signText negative ++ p.text) = some (p.value negative) := by
  have unsigned := p.unsignedLiteral?_text negative
  have infinite := p.asciiLower_text_ne "inf".toList (by decide)
  have infinity := p.asciiLower_text_ne "infinity".toList (by decide)
  have undefined := p.asciiLower_text_ne "nan".toList (by decide)
  obtain ⟨c, rest, cons, digit⟩ := p.exists_text_eq_cons
  rw [cons] at unsigned infinite infinity undefined ⊢
  cases negative with
  | false =>
    rw [signText, if_neg Bool.false_ne_true, List.nil_append, ofLiteral?]
    · simp only [infinite, infinity, undefined, Bool.or_self, Bool.false_eq_true, if_false]
      exact unsigned
    · rintro _ ⟨⟩
      cases digit
    · rintro _ ⟨⟩
      cases digit
  | true =>
    rw [signText, if_pos rfl, List.singleton_append, ofLiteral?]
    simp only [infinite, infinity, undefined, Bool.or_self, Bool.false_eq_true, if_false]
    exact unsigned

end Positional

/-! ## Decimals without an exponent -/

namespace Decimal

variable {d : Decimal}

/-- A whole number is written with its digits and zeros. -/
theorem isWhole_positional (whole : 0 ≤ d.exponent) :
    Digits.IsWhole d.positional ∧
      Digits.toNat d.positional = d.digits * 10 ^ d.exponent.toNat := by
  have isWhole := Digits.isWhole_ofNat d.digits
  rw [positional, if_pos whole]
  split
  next zero =>
    refine ⟨isWhole, ?_⟩
    rw [Digits.toNat_ofNat, beq_iff_eq.1 zero, Nat.zero_mul]
  next other =>
    refine ⟨⟨?_, ?_, ?_⟩, ?_⟩
    · refine List.forall_mem_append.2 ⟨isWhole.isDigit, fun c mem => ?_⟩
      rw [List.eq_of_mem_replicate mem]
      rfl
    · exact List.append_ne_nil_of_left_ne_nil isWhole.ne_nil _
    · -- a leading zero would be the only digit, and the digits are not zero
      intro zero
      rw [List.head?_append_of_ne_nil _ isWhole.ne_nil] at zero
      refine absurd (beq_iff_eq.2 ?_) other
      rw [← Digits.toNat_ofNat d.digits, isWhole.leading zero]
      rfl
    · rw [Digits.toNat_append_replicate, Digits.toNat_ofNat]

/-- A fraction of zero can follow a whole number. -/
theorem exists_text_eq_append (whole : 0 ≤ d.exponent) :
    ∃ p : Positional, p.text = d.positional ++ ".0".toList ∧
      ∀ negative, p.value negative = ofDecimal negative d.digits d.exponent := by
  obtain ⟨isWhole, value⟩ := isWhole_positional whole
  refine ⟨⟨d.positional, ['0'], isWhole, List.forall_mem_singleton.2 rfl, by decide⟩, rfl,
    fun negative => ?_⟩
  have shifted : Digits.toNat (d.positional ++ ['0']) = Digits.toNat d.positional * 10 :=
    Digits.toNat_append_replicate d.positional 1
  calc ofDecimal negative (Digits.toNat (d.positional ++ ['0'])) (-1)
      = ofDecimal negative (Digits.toNat d.positional) 0 := by
        rw [shifted, ofDecimal_mul_ten]
        rfl
    _ = ofDecimal negative d.digits d.exponent := by
        rw [ofDecimal, ofDecimal, if_pos (Int.le_refl 0), if_pos whole, value, Int.toNat_zero,
          Nat.pow_eq, Nat.pow_eq, Nat.pow_zero, Nat.mul_one]

/-- The digits of a number with a fraction, filled up so that one stands before the point. -/
def padded (places n : Nat) : List Char :=
  List.replicate (places + 1 - (Digits.ofNat n).length) '0' ++ Digits.ofNat n

variable (places n : Nat)

/-- Padding is digits too. -/
theorem isDigit_of_mem_padded : ∀ c ∈ padded places n, c.isDigit = true := by
  refine List.forall_mem_append.2 ⟨fun c mem => ?_, fun c => Digits.isDigit_of_mem_ofNat⟩
  rw [List.eq_of_mem_replicate mem]
  rfl

/-- There are more digits than places, so that one is left before the point. -/
theorem lt_length_padded : places < (padded places n).length := by
  rw [padded, List.length_append, List.length_replicate]
  omega

/-- Padding changes nothing in the value. -/
theorem toNat_padded : Digits.toNat (padded places n) = n := by
  rw [padded, Digits.toNat_replicate_append, Digits.toNat_ofNat]

/-- If a zero stands first, it is the only digit before the point. -/
theorem take_padded {places n : Nat} (some : 0 < places)
    (zero : ((padded places n).take ((padded places n).length - places)).head? = Option.some '0') :
    (padded places n).take ((padded places n).length - places) = ['0'] := by
  have long := lt_length_padded places n
  rw [List.head?_take, if_neg (by omega)] at zero
  rcases Nat.lt_or_ge places (Digits.ofNat n).length with more | few
  · -- Without zeros filled in, the number itself would be zero.
    rw [padded, Nat.sub_eq_zero_of_le more, List.replicate_zero, List.nil_append] at zero
    rw [Digits.ofNat_head zero, List.length_singleton] at more
    omega
  · have length : (padded places n).length - places = 1 := by
      rw [padded, List.length_append, List.length_replicate]
      omega
    obtain ⟨rest, cons⟩ := List.head?_eq_some_iff.1 zero
    rw [length, cons]
    rfl

/-- A number with its last digits after the point. -/
def withPlaces (places n : Nat) (some : 0 < places) : Positional where
  whole := (padded places n).take ((padded places n).length - places)
  fraction := (padded places n).drop ((padded places n).length - places)
  isWhole := by
    refine ⟨fun c mem => isDigit_of_mem_padded places n c (List.mem_of_mem_take mem), ?_,
      take_padded some⟩
    have := lt_length_padded places n
    exact List.ne_nil_of_length_pos (by rw [List.length_take]; omega)
  isDigit_fraction c mem := isDigit_of_mem_padded places n c (List.mem_of_mem_drop mem)
  fraction_ne_nil := by
    have := lt_length_padded places n
    exact List.ne_nil_of_length_pos (by rw [List.length_drop]; omega)

/-- A number with places is worth its digits, divided by ten for each place. -/
theorem value_withPlaces (some : 0 < places) (negative : Bool) :
    (withPlaces places n some).value negative = ofDecimal negative n (-places) := by
  have fraction : (withPlaces places n some).fraction.length = places := by
    have := lt_length_padded places n
    rw [withPlaces, List.length_drop]
    omega
  rw [Positional.value, fraction, withPlaces, List.take_append_drop, toNat_padded]

/-- A number with a fraction is written with as many digits after the point as its exponent says. -/
theorem exists_text_eq (small : d.exponent < 0) :
    ∃ p : Positional, p.text = d.positional ∧
      ∀ negative, p.value negative = ofDecimal negative d.digits d.exponent := by
  have places : 0 < (-d.exponent).toNat := by omega
  refine ⟨withPlaces (-d.exponent).toNat d.digits places, ?_, fun negative => ?_⟩
  · rw [positional, if_neg (Int.not_le.2 small)]
    rfl
  · rw [value_withPlaces, Int.toNat_of_nonneg (by omega), Int.neg_neg]

end Decimal

end Ensemble.Binary64
