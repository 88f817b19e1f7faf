/-!
# Binary floating-point numbers as exact values

Scores, thresholds and similarities are binary floating-point numbers of 64 bits.  This module holds
them as what they denote: a number that is neither infinite nor undefined is a sign and a magnitude
counted in units of `2^-1074`, the distance between neighbouring numbers around zero.  Every such
number is a whole count of units, so comparing numbers is comparing integers, and every operation is
an exact computation followed by one rounding.

* `Binary64.ofRatio` rounds an exact quotient to the nearest number of 53 significant binary digits,
  and to the one with the even last digit if two are equally near.  Magnitudes from `2^1024` on
  round to an infinity.
* Comparisons go through `Binary64.rank?`, which orders the infinities around the finite numbers and
  has no value for the undefined number.
-/

namespace Ensemble

/-- A binary floating-point number of 64 bits; finite ones count units of `2^-1074`. -/
inductive Binary64 where
  /-- The undefined number. -/
  | nan
  /-- An infinity. -/
  | infinite (negative : Bool)
  /-- A finite number: its sign, and its magnitude in units of `2^-1074`. -/
  | finite (negative : Bool) (units : Nat)
  deriving DecidableEq, Repr

namespace Binary64

/-! ## Rounding to 53 significant binary digits -/

/-- The number of units in one. -/
def unitsInOne : Nat := Nat.pow 2 1074

/-- The least magnitude, in units, that is too large for a finite number. -/
def overflowUnits : Nat := Nat.pow 2 2098

/-- The quotient `num / den` rounded to an integer, half-way cases to the even neighbour. -/
def roundQuotient (num den : Nat) : Nat :=
  let quotient := num / den
  let twice := 2 * (num % den)
  if twice < den || (twice == den && quotient % 2 == 0) then quotient else quotient + 1

/-- The power of two that is the last kept binary digit of a magnitude with integer part `whole`. -/
def keptDigit (whole : Nat) : Nat :=
  Nat.pow 2 (whole.log2 - 52)

/-- The quotient `num / den` rounded to 53 significant binary digits, or to a whole number. -/
def roundUnits (num den : Nat) : Nat :=
  let digit := keptDigit (num / den)
  roundQuotient num (den * digit) * digit

/-- The finite number of a magnitude in units, or an infinity if the magnitude is too large. -/
def ofUnits (negative : Bool) (units : Nat) : Binary64 :=
  if units < overflowUnits then finite negative units else infinite negative

/-- The number nearest to `num / den`, with the given sign. -/
def ofRatio (negative : Bool) (num den : Nat) : Binary64 :=
  ofUnits negative (roundUnits (num * unitsInOne) den)

/-- The number nearest to a natural number. -/
def ofNat (n : Nat) : Binary64 :=
  ofRatio false n 1

/-- The number nearest to `digits * 10 ^ exponent`, with the given sign. -/
def ofDecimal (negative : Bool) (digits : Nat) (exponent : Int) : Binary64 :=
  if 0 ≤ exponent then ofRatio negative (digits * Nat.pow 10 exponent.toNat) 1
  else ofRatio negative digits (Nat.pow 10 (-exponent).toNat)

/-- Zero. -/
def zero : Binary64 := finite false 0

/-- One. -/
def one : Binary64 := finite false unitsInOne

/-! ## Order -/

/-- The place of a number in the order of all numbers; the undefined number has none. -/
def rank? : Binary64 → Option Int
  | nan => none
  | infinite true => some (-(overflowUnits : Int))
  | infinite false => some overflowUnits
  | finite true units => some (-(units : Int))
  | finite false units => some units

/-- Whether `x` is less than `y`; false if either is undefined. -/
def lt (x y : Binary64) : Bool :=
  match x.rank?, y.rank? with
  | some a, some b => a < b
  | _, _ => false

/-- Whether `x` is at most `y`; false if either is undefined. -/
def le (x y : Binary64) : Bool :=
  match x.rank?, y.rank? with
  | some a, some b => a ≤ b
  | _, _ => false

/-- Whether a number is finite. -/
def isFinite : Binary64 → Bool
  | finite _ _ => true
  | _ => false

/-! ## Arithmetic -/

/-- The number with the other sign. -/
def neg : Binary64 → Binary64
  | nan => nan
  | infinite negative => infinite !negative
  | finite negative units => finite (!negative) units

/-- The number nearest to the difference `x - y`. -/
def sub : Binary64 → Binary64 → Binary64
  | nan, _ => nan
  | _, nan => nan
  | infinite s, infinite t => if s == t then nan else infinite s
  | infinite s, finite _ _ => infinite s
  | finite _ _, infinite t => infinite !t
  | finite s a, finite t b =>
    let signed (negative : Bool) (units : Nat) : Int := if negative then -units else units
    let difference := signed s a - signed t b
    if difference == 0 then finite (s && !t) 0
    else ofUnits (difference < 0) (roundUnits difference.natAbs 1)

/-- The number nearest to the product of two finite numbers. -/
def mulFinite (s : Bool) (a : Nat) (t : Bool) (b : Nat) : Binary64 :=
  ofUnits (s != t) (roundUnits (a * b) unitsInOne)

/-- The number nearest to the quotient of two finite numbers, the second of them not zero. -/
def divFinite (s : Bool) (a : Nat) (t : Bool) (b : Nat) : Binary64 :=
  ofUnits (s != t) (roundUnits (a * unitsInOne) b)

/-! ## Laws -/

/-- The undefined number is not at most anything. -/
@[simp] theorem le_nan_left (x : Binary64) : le nan x = false := rfl

/-- The undefined number is not less than anything. -/
@[simp] theorem lt_nan_left (x : Binary64) : lt nan x = false := rfl

/-- A quotient without remainder needs no rounding. -/
theorem roundQuotient_mul (q den : Nat) (h : 0 < den) : roundQuotient (q * den) den = q := by
  simp [roundQuotient, Nat.mul_div_cancel q h, h]

/-- Negation turns the order around. -/
theorem rank?_neg (x : Binary64) : x.neg.rank? = x.rank?.map (- ·) := by
  cases x with
  | nan => rfl
  | infinite s =>
    cases s <;> simp only [neg, rank?, Bool.not_true, Bool.not_false, Option.map_some, Int.neg_neg]
  | finite s n =>
    cases s <;> simp only [neg, rank?, Bool.not_true, Bool.not_false, Option.map_some, Int.neg_neg]

end Binary64

end Ensemble
