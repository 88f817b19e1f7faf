import Ensemble.Text.Blank
import Ensemble.Time.Calendar
import Ensemble.Time.Span

/-!
# Points in time

A timestamp counts seconds since 1970-01-01T00:00:00Z and nanoseconds within the second.  A leap
second is the continuation of the second before it: its nanoseconds start at `10^9`.

* `Timestamp.text` writes a timestamp as RFC 3339 asks for, in universal time, with no fraction or
  with the fewest of 3, 6 or 9 places that are exact.
* `Timestamp.read?` reads such a text and is lenient about its layout: blanks may stand before each
  number and around the separators, numbers may be short, the date and the time may be separated by
  a blank, and the offset may be written without its colon or as `UTC`.
-/

namespace Ensemble

/-- A point in time. -/
structure Timestamp where
  /-- Seconds since 1970-01-01T00:00:00Z. -/
  seconds : Int
  /-- Nanoseconds within the second; in a leap second they start at `10^9`. -/
  nanos : Nat
  deriving DecidableEq, Repr

namespace Timestamp

/-- The number of nanoseconds in a second. -/
def nanosInSecond : Nat := 1000000000

/-- The number of seconds in a day. -/
def secondsInDay : Int := 86400

/-- The point in time a number of milliseconds after 1970-01-01T00:00:00Z. -/
def ofMillis (millis : Int) : Timestamp :=
  ⟨millis / 1000, (millis % 1000).toNat * 1000000⟩

/-- The whole milliseconds since 1970-01-01T00:00:00Z. -/
def millis (t : Timestamp) : Int :=
  t.seconds * 1000 + t.nanos / 1000000

/-- The point in time that is a span later; a leap second lasts until the next second begins. -/
def add (t : Timestamp) (s : Span) : Timestamp :=
  let nanos := t.nanos + s.nanos
  if nanosInSecond ≤ t.nanos then
    if nanos < 2 * nanosInSecond then ⟨t.seconds, nanos⟩
    else ⟨t.seconds + nanos / nanosInSecond - 1, nanos % nanosInSecond⟩
  else ⟨t.seconds + nanos / nanosInSecond, nanos % nanosInSecond⟩

/-- The second of the day. -/
def secondOfDay (t : Timestamp) : Int :=
  t.seconds % secondsInDay

/-- The nanoseconds from `earlier` to `later`; a leap second between them counts. -/
def since (later earlier : Timestamp) : Int :=
  let leap : Int :=
    if earlier.secondOfDay < later.secondOfDay && nanosInSecond ≤ earlier.nanos then 1
    else if later.secondOfDay < earlier.secondOfDay && nanosInSecond ≤ later.nanos then -1
    else 0
  (later.seconds - earlier.seconds + leap) * nanosInSecond + (later.nanos - earlier.nanos)

/-- The span from `earlier` to `later`, or no time at all if `later` comes first. -/
def elapsed (later earlier : Timestamp) : Span :=
  ⟨(later.since earlier).toNat⟩

/-! ## Writing -/

/-- A number with at least `width` digits. -/
def padded (width n : Nat) : List Char :=
  let digits := Digits.ofNat n
  List.replicate (width - digits.length) '0' ++ digits

/-- A year: four digits, or a sign and at least four digits outside of the years 0 to 9999. -/
def yearText (year : Int) : List Char :=
  if 0 ≤ year && year ≤ 9999 then padded 4 year.toNat
  else (if year < 0 then '-' else '+') :: padded 4 year.natAbs

/-- The fraction of a second with the fewest places, of 0, 3, 6 and 9, that are exact. -/
def fractionText (nanos : Nat) : List Char :=
  if nanos == 0 then []
  else if nanos % 1000000 == 0 then '.' :: padded 3 (nanos / 1000000)
  else if nanos % 1000 == 0 then '.' :: padded 6 (nanos / 1000)
  else '.' :: padded 9 nanos

/-- The text of a timestamp in universal time. -/
def text (t : Timestamp) : String :=
  let date := Date.ofDayNumber (t.seconds / secondsInDay)
  let second := t.secondOfDay.toNat
  let leap := t.nanos / nanosInSecond
  String.ofList <|
    yearText date.year ++ '-' :: padded 2 date.month ++ '-' :: padded 2 date.day ++
      'T' :: padded 2 (second / 3600) ++ ':' :: padded 2 (second / 60 % 60) ++
      ':' :: padded 2 (second % 60 + leap) ++ fractionText (t.nanos % nanosInSecond) ++ ['Z']

/-! ## Reading -/

/-- An unsigned number of at least one digit and at most `width` digits, after blanks. -/
def number? (width : Nat) (s : List Char) : Option (Nat × List Char) :=
  let digits := ((Text.trimStart s).take width).takeWhile Char.isDigit
  if digits.isEmpty then none
  else some (Digits.toNat digits, (Text.trimStart s).drop digits.length)

/-- A year, after blanks: up to four digits, or a sign and any number of digits. -/
def year? (s : List Char) : Option (Int × List Char) :=
  let signed (sign : Int) (digits : List Char) : Option (Int × List Char) :=
    let (run, rest) := Digits.span digits
    if run.isEmpty || 9 < (run.dropWhile (· == '0')).length then none
    else some (sign * Digits.toNat run, rest)
  match Text.trimStart s with
  | '-' :: rest => signed (-1) rest
  | '+' :: rest => signed 1 rest
  | start => (number? 4 start).map fun (year, rest) => (year, rest)

/-- What follows a separator, which may stand after blanks. -/
def separated? (separator : Char) (s : List Char) : Option (List Char) :=
  match Text.trimStart s with
  | c :: rest => if c == separator then some rest else none
  | [] => none

/-- An optional fraction of a second; digits beyond the ninth are dropped. -/
def fraction? (s : List Char) : Option (Nat × List Char) :=
  match s with
  | '.' :: more =>
    let (run, rest) := Digits.span more
    let kept := run.take 9
    if kept.isEmpty then none
    else some (Digits.toNat kept * Nat.pow 10 (9 - kept.length), rest)
  | _ => some (0, s)

/-- Exactly two digits. -/
def twoDigits? : List Char → Option (Nat × List Char)
  | a :: b :: rest =>
    if a.isDigit && b.isDigit then some (Digits.value a * 10 + Digits.value b, rest) else none
  | _ => none

/-- An offset from universal time, in seconds. -/
def offset? (s : List Char) : Option (Int × List Char) :=
  let signed (sign : Int) (rest : List Char) : Option (Int × List Char) := do
    let (hours, rest) ← twoDigits? rest
    let (minutes, rest) ← twoDigits? (rest.dropWhile fun c => c == ':' || Text.isBlank c)
    if minutes < 60 then some (sign * (hours * 3600 + minutes * 60), rest) else none
  match s with
  | 'Z' :: rest => some (0, rest)
  | 'z' :: rest => some (0, rest)
  | '+' :: rest => signed 1 rest
  | '-' :: rest => signed (-1) rest
  | '\u2212' :: rest => signed (-1) rest
  | _ =>
    if Text.sameIgnoringAsciiCase (s.take 3) "UTC".toList then some (0, s.drop 3) else none

/-- The point in time that a text denotes, if it is written as one. -/
def read? (s : List Char) : Option Timestamp := do
  let (year, s) ← year? s
  let s ← separated? '-' s
  let (month, s) ← number? 2 s
  let s ← separated? '-' s
  let (day, s) ← number? 2 s
  let date ← Date.ofParts? year month day
  let s ←
    match s with
    | 't' :: rest => some rest
    | 'T' :: rest => some rest
    | ' ' :: rest => some rest
    | _ => none
  let (hour, s) ← number? 2 s
  let s ← separated? ':' s
  let (minute, s) ← number? 2 s
  let s ← separated? ':' s
  let (second, s) ← number? 2 s
  let (nanos, s) ← fraction? s
  let (offset, s) ← offset? (Text.trimStart s)
  guard (Text.trimStart s).isEmpty
  guard (hour < 24 && minute < 60 && second ≤ 60)
  guard (offset.natAbs < 86400)
  let leap := second / 60
  let instant : Timestamp :=
    ⟨date.toDayNumber * secondsInDay + hour * 3600 + minute * 60 + (second - leap : Nat) - offset,
      leap * nanosInSecond + nanos⟩
  let year := (Date.ofDayNumber (instant.seconds / secondsInDay)).year
  guard (Date.firstYear ≤ year && year ≤ Date.lastYear)
  return instant

end Timestamp

end Ensemble
