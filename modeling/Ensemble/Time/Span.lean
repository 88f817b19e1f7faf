import Ensemble.Number.Literal

/-!
# Lengths of time

A span of time in nanoseconds, and its text: a number in the largest of the units second,
millisecond, microsecond and nanosecond in which it is at least one, with as many decimal places as
it needs.
-/

namespace Ensemble

/-- A length of time. -/
structure Span where
  nanos : Nat
  deriving DecidableEq, Repr

namespace Span

/-- A number of whole seconds. -/
def ofSeconds (seconds : Nat) : Span :=
  ⟨seconds * 1000000000⟩

/-- A number of whole milliseconds. -/
def ofMillis (millis : Nat) : Span :=
  ⟨millis * 1000000⟩

/-- The whole seconds of a span. -/
def seconds (s : Span) : Nat :=
  s.nanos / 1000000000

/-- The whole milliseconds of a span. -/
def millis (s : Span) : Nat :=
  s.nanos / 1000000

/-- The decimal places of a remainder below `10 ^ places`, without the zeros at their end. -/
def places (count remainder : Nat) : List Char :=
  let digits := Digits.ofNat remainder
  let padded := List.replicate (count - digits.length) '0' ++ digits
  (padded.reverse.dropWhile (· == '0')).reverse

/-- A count of nanoseconds in units of `10 ^ count` nanoseconds. -/
def inUnits (count : Nat) (nanos : Nat) (unit : String) : String :=
  let fraction := places count (nanos % Nat.pow 10 count)
  String.ofList (Digits.ofNat (nanos / Nat.pow 10 count) ++
    if fraction.isEmpty then [] else '.' :: fraction) ++ unit

/-- The text of a span. -/
def text (s : Span) : String :=
  if 1000000000 ≤ s.nanos then inUnits 9 s.nanos "s"
  else if 1000000 ≤ s.nanos then inUnits 6 s.nanos "ms"
  else if 1000 ≤ s.nanos then inUnits 3 s.nanos "µs"
  else inUnits 0 s.nanos "ns"

end Span

end Ensemble
