import Ensemble.Number.Literal

/-!
# Writing floating-point numbers

A finite number is written with the fewest decimal digits that still round to it; among decimals
with that many digits the nearest one is taken.

* `Binary64.shortest` finds these digits.  The numbers that round to a given one form an interval,
  with its ends included exactly when the last binary digit is even.  For each count of digits from
  one on, only the two neighbours of the number on the grid of that many digits have to be tried.
* `Binary64.plain` writes them without an exponent, and `Binary64.document` writes them the way
  documents hold them: always with a point or an exponent.
* `Binary64.fixed` writes a number with a given count of decimal places, half-way cases to the even
  digit.
-/

namespace Ensemble

namespace Binary64

/-! ## The fewest digits that read back -/

/-- The number whose decimal digits are `digits`, times `10 ^ exponent`. -/
structure Decimal where
  digits : Nat
  exponent : Int
  deriving DecidableEq, Repr

/-- Four times the bounds of the magnitudes that round to `units`, and whether they are included. -/
def roundingInterval (units : Nat) : Nat × Nat × Bool :=
  let digit := keptDigit units
  let lowerGap := if units == digit * Nat.pow 2 52 && 1 < digit then digit else 2 * digit
  (4 * units - lowerGap, 4 * units + 2 * digit, units / digit % 2 == 0)

/-- Compares `digits * 10 ^ exponent` with `quarters / (4 * unitsInOne)`. -/
def compareQuarters (d : Decimal) (quarters : Nat) : Ordering :=
  if 0 ≤ d.exponent then
    compare (d.digits * Nat.pow 10 d.exponent.toNat * (4 * unitsInOne)) quarters
  else compare (d.digits * (4 * unitsInOne)) (quarters * Nat.pow 10 (-d.exponent).toNat)

/-- Whether a decimal lies in the interval of magnitudes that round to `units`. -/
def roundsTo (units : Nat) (d : Decimal) : Bool :=
  let (low, high, closed) := roundingInterval units
  match compareQuarters d low, compareQuarters d high with
  | .gt, .lt => true
  | .eq, _ => closed
  | _, .eq => closed
  | _, _ => false

/-- The exponent of the leading decimal digit of a positive magnitude, found from a first guess. -/
def leadingExponent (units : Nat) : Int :=
  let reaches (e : Int) : Bool := compareQuarters ⟨1, e⟩ (4 * units) != .gt
  let guess : Int := ((units.log2 : Int) - 1074) * 30103 / 100000
  if reaches (guess + 1) then guess + 1
  else if reaches guess then guess
  else guess - 1

/-- The greatest decimal on the grid `10 ^ exponent` that is not above the magnitude. -/
def gridFloor (units : Nat) (exponent : Int) : Nat :=
  if 0 ≤ exponent then units / (unitsInOne * Nat.pow 10 exponent.toNat)
  else units * Nat.pow 10 (-exponent).toNat / unitsInOne

/-- Whether the upper neighbour on a grid is nearer than the lower one; a tie goes to the even. -/
def upperIsNearer (units : Nat) (lower : Decimal) : Bool :=
  match compareQuarters ⟨2 * lower.digits + 1, lower.exponent⟩ (8 * units) with
  | .lt => true
  | .eq => lower.digits % 2 == 1
  | .gt => false

/-- The first grid with a neighbour that rounds to the magnitude, tried from `count` digits on. -/
def shortestFrom (units : Nat) (top : Int) : Nat → Nat → Decimal
  | 0, count => ⟨gridFloor units (top - count), top - count⟩
  | tries + 1, count =>
    let exponent := top - count
    let lower : Decimal := ⟨gridFloor units exponent, exponent⟩
    let upper : Decimal := ⟨lower.digits + 1, exponent⟩
    match roundsTo units lower, roundsTo units upper with
    | true, true => if upperIsNearer units lower then upper else lower
    | true, false => lower
    | false, true => upper
    | false, false => shortestFrom units top tries (count + 1)

/-- Moves the zeros at the end of the digits into the exponent. -/
def dropZeros : Nat → Decimal → Decimal
  | 0, d => d
  | fuel + 1, d =>
    if d.digits % 10 == 0 && d.digits != 0 then dropZeros fuel ⟨d.digits / 10, d.exponent + 1⟩
    else d

/-- The decimal with the fewest digits that rounds to a magnitude in units. -/
def shortest (units : Nat) : Decimal :=
  if units == 0 then ⟨0, 0⟩
  else dropZeros 20 (shortestFrom units (leadingExponent units) 18 0)

/-! ## Layouts -/

/-- The sign that stands before a number. -/
def signText (negative : Bool) : List Char :=
  if negative then ['-'] else []

/-- A decimal without an exponent; a whole number gets no point. -/
def Decimal.positional (d : Decimal) : List Char :=
  let digits := Digits.ofNat d.digits
  if 0 ≤ d.exponent then
    if d.digits == 0 then digits else digits ++ List.replicate d.exponent.toNat '0'
  else
    let places := (-d.exponent).toNat
    let padded := List.replicate (places + 1 - digits.length) '0' ++ digits
    padded.take (padded.length - places) ++ '.' :: padded.drop (padded.length - places)

/-- A decimal with an exponent and with one digit before the point. -/
def Decimal.scientific (d : Decimal) : List Char :=
  let digits := Digits.ofNat d.digits
  let exponent : Int := d.exponent + digits.length - 1
  let mantissa :=
    match digits with
    | first :: second :: rest => first :: '.' :: second :: rest
    | short => short
  mantissa ++ 'e' :: signText (exponent < 0) ++ Digits.ofNat exponent.natAbs

/-- The text of a number without an exponent. -/
def plain : Binary64 → List Char
  | nan => "NaN".toList
  | infinite negative => signText negative ++ "inf".toList
  | finite negative units => signText negative ++ (shortest units).positional

/-- The text of a finite number, with an exponent outside of `1e-5` to `1e16`. -/
def documentText (negative : Bool) (units : Nat) : List Char :=
  let d := shortest units
  let point : Int := d.exponent + (Digits.ofNat d.digits).length
  let body :=
    if d.digits == 0 then "0.0".toList
    else if 0 ≤ d.exponent && point ≤ 16 then d.positional ++ ".0".toList
    else if -5 < point && point ≤ 16 then d.positional
    else d.scientific
  signText negative ++ body

/-- The text of a finite number in a document; the other numbers have none. -/
def document? : Binary64 → Option (List Char)
  | finite negative units => some (documentText negative units)
  | _ => none

/-- A number with a fixed count of decimal places. -/
def fixed (places : Nat) : Binary64 → List Char
  | finite negative units =>
    let scaled := roundQuotient (units * Nat.pow 10 places) unitsInOne
    let digits := Digits.ofNat scaled
    let padded := List.replicate (places + 1 - digits.length) '0' ++ digits
    let fraction := padded.drop (padded.length - places)
    signText negative ++ padded.take (padded.length - places) ++
      if places == 0 then [] else '.' :: fraction
  | other => other.plain

end Binary64

end Ensemble
