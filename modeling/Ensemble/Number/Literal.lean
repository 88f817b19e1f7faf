import Ensemble.Number.Binary64
import Ensemble.Text.Blank

/-!
# Reading decimal numbers

Two ways to read a floating-point number from text share the scanning of digits.

* `Binary64.ofLiteral?` reads a number on its own: an optional sign, then digits with an optional
  point and an optional exponent, or one of the words `inf`, `infinity` and `nan` in any letter
  case.  At least one digit stands before or after the point.  The value is the number nearest to
  the decimal written.
* `Binary64.scaled?` finds the value of a decimal the quick way: it takes the leading digits that
  fit into 64 bits as one number and scales that by powers of ten, rounding at each step.
  For decimals of up to 15 digits and moderate exponents both agree.
-/

namespace Ensemble

namespace Digits

/-- The value of a decimal digit. -/
def value (c : Char) : Nat :=
  c.toNat - '0'.toNat

/-- The digits at the start of a text, and the rest. -/
def span (s : List Char) : List Char × List Char :=
  (s.takeWhile Char.isDigit, s.dropWhile Char.isDigit)

/-- The natural number that a list of decimal digits denotes. -/
def toNat (digits : List Char) : Nat :=
  Nat.ofDigitChars 10 digits 0

/-- The decimal digits of a natural number. -/
def ofNat (n : Nat) : List Char :=
  Nat.toDigits 10 n

/-- Reading the digits of a number gives the number back. -/
@[simp] theorem toNat_ofNat (n : Nat) : toNat (ofNat n) = n :=
  Nat.ofDigitChars_toDigits (by decide) (by decide)

end Digits

namespace Binary64

/-- Exponents beyond this bound decide a value on their own, whatever the digits before them. -/
def exponentBound : Nat := 100000

/--
The number nearest to `digits * 10 ^ exponent`.  The power is computed only if the value is neither
too large nor too small for its size alone to decide.
-/
def nearestDecimal (negative : Bool) (digits : List Char) (exponent : Int) : Binary64 :=
  let significant := digits.dropWhile (· == '0')
  let magnitude : Int := significant.length + exponent
  if significant.isEmpty || magnitude < -400 then finite negative 0
  else if 400 < magnitude then infinite negative
  else ofDecimal negative (Digits.toNat significant) exponent

/-- An exponent after its letter: an optional sign and at least one digit, up to the end. -/
def exponentPart? (s : List Char) : Option Int :=
  let (negative, digits) :=
    match s with
    | '-' :: rest => (true, rest)
    | '+' :: rest => (false, rest)
    | _ => (false, s)
  if digits.isEmpty || !digits.all Char.isDigit then none
  else
    let size : Nat := min (Digits.toNat digits) exponentBound
    some (if negative then -size else size)

/-- An unsigned number: digits with an optional point and an optional exponent. -/
def unsignedLiteral? (negative : Bool) (s : List Char) : Option Binary64 :=
  let (whole, rest) := Digits.span s
  let (fraction, rest) :=
    match rest with
    | '.' :: more => Digits.span more
    | _ => ([], rest)
  if whole.isEmpty && fraction.isEmpty then none
  else
    let exponent? : Option Int :=
      match rest with
      | [] => some 0
      | 'e' :: more => exponentPart? more
      | 'E' :: more => exponentPart? more
      | _ => none
    exponent?.map fun exponent =>
      nearestDecimal negative (whole ++ fraction) (exponent - fraction.length)

/-- The number that a text denotes, if it is written as one. -/
def ofLiteral? (s : List Char) : Option Binary64 :=
  let (negative, rest) :=
    match s with
    | '-' :: rest => (true, rest)
    | '+' :: rest => (false, rest)
    | _ => (false, s)
  let word := Text.asciiLower rest
  if word == "inf".toList || word == "infinity".toList then some (infinite negative)
  else if word == "nan".toList then some nan
  else unsignedLiteral? negative rest

/-! ## Scaling by powers of ten -/

/-- The largest power of ten that is a finite number. -/
def largestPower : Nat := 308

/--
Multiplies or divides a finite number by `10 ^ exponent`, where powers of ten are themselves
rounded.  A quotient beyond the largest power is taken in steps; a product that overflows is none.
-/
def scale? (steps : Nat) (negative : Bool) (units : Nat) (exponent : Int) :
    Option Binary64 :=
  if exponent.natAbs ≤ largestPower then
    match ofDecimal false 1 exponent.natAbs with
    | finite _ power =>
      if 0 ≤ exponent then
        match mulFinite negative units false power with
        | infinite _ => none
        | product => some product
      else some (divFinite negative units false power)
    | _ => none
  else if units == 0 then some (finite negative 0)
  else if 0 ≤ exponent then none
  else
    match steps, ofDecimal false 1 largestPower with
    | steps + 1, finite _ power =>
      match divFinite negative units false power with
      | finite _ smaller => scale? steps negative smaller (exponent + largestPower)
      | other => some other
    | _, _ => some (finite negative 0)

/-- One more digit than fits into this bound is left out of the leading digits. -/
def wordBound : Nat := Nat.pow 2 64

/-- The longest run of leading digits that denotes a number of 64 bits, and how many are left. -/
def leading (acc : Nat) : List Char → Nat × Nat
  | [] => (acc, 0)
  | c :: rest =>
    let next := acc * 10 + Digits.value c
    if next < wordBound then leading next rest else (acc, (c :: rest).length)

/--
The value of a decimal by scaling its leading digits; none if it is too large.  Digits of the whole
part that do not fit raise the exponent, and digits of the fraction that do not fit are dropped.
-/
def scaled? (negative : Bool) (whole fraction : List Char) (exponent : Int) : Option Binary64 :=
  let (significand, droppedWhole) := leading 0 whole
  let (significand, droppedFraction) := leading significand fraction
  let used := fraction.length - droppedFraction
  let bounded : Int := max (-(exponentBound : Int)) (min exponent exponentBound)
  match ofNat significand with
  | finite _ units => scale? 400 negative units (bounded + droppedWhole - used)
  | _ => none

end Binary64

end Ensemble
