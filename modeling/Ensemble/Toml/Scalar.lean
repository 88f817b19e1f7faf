import Ensemble.Toml.Basic

/-!
# Blanks, strings, numbers and dates of TOML

Readers for the parts of a document that are not made of other parts.  Each takes the text from a
position on and gives what it has read together with the text after it.
-/

namespace Ensemble.Toml

/-! ## Blanks, line ends and comments -/

/-- Whether a character separates words within a line. -/
def isSpace (c : Char) : Bool :=
  c == ' ' || c == '\t'

/-- Drops the blanks at the start of a text. -/
def skipSpace (s : List Char) : List Char :=
  s.dropWhile isSpace

/-- Whether a character may stand in text that runs to the end of a line. -/
def isPlain (c : Char) : Bool :=
  c == '\t' || (0x20 ≤ c.toNat && c.toNat != 0x7F)

/-- The text after the end of a line. -/
def lineEnd? : List Char → Option (List Char)
  | '\n' :: rest => some rest
  | '\r' :: '\n' :: rest => some rest
  | _ => none

/-- Drops a comment at the start of a text. -/
def skipComment (s : List Char) : List Char :=
  match s with
  | '#' :: rest => rest.dropWhile isPlain
  | _ => s

/-- The text after what may follow a value on its line. -/
def afterLine? (s : List Char) : Option (List Char) :=
  match skipComment (skipSpace s) with
  | [] => some []
  | rest => lineEnd? rest

/-- Drops blanks, ends of lines and comments. -/
def skipLines : Bool → List Char → List Char
  | _, [] => []
  | inComment, c :: rest =>
    if inComment && isPlain c then skipLines true rest
    else if c == '#' then skipLines true rest
    else if isSpace c || c == '\n' then skipLines false rest
    else
      match c, rest with
      | '\r', '\n' :: more => skipLines false more
      | _, _ => c :: rest

/-! ## Strings -/

/-- The value of a hexadecimal number. -/
def hexValue? (digits : List Char) : Option Nat :=
  digits.foldlM (fun value c =>
    if c.isDigit then some (value * 16 + (c.toNat - '0'.toNat))
    else if 'a' ≤ c ∧ c ≤ 'f' then some (value * 16 + (c.toNat - 'a'.toNat + 10))
    else if 'A' ≤ c ∧ c ≤ 'F' then some (value * 16 + (c.toNat - 'A'.toNat + 10))
    else none) 0

/-- The character of a code point. -/
def charOf? (code : Nat) : Option Char :=
  if code.isValidChar then some (Char.ofNat code) else none

/-- The character of a code point in hexadecimal digits at the start of a text. -/
def codePoint? (count : Nat) (s : List Char) : Option Char :=
  if (s.take count).length = count then (hexValue? (s.take count)).bind charOf? else none

/-- The character that an escape stands for, and how many characters the escape has. -/
def escape? : List Char → Option (Char × Nat)
  | 'b' :: _ => some ('\x08', 1)
  | 't' :: _ => some ('\t', 1)
  | 'n' :: _ => some ('\n', 1)
  | 'f' :: _ => some ('\x0c', 1)
  | 'r' :: _ => some ('\r', 1)
  | '"' :: _ => some ('"', 1)
  | '\\' :: _ => some ('\\', 1)
  | 'u' :: rest => (codePoint? 4 rest).map fun c => (c, 5)
  | 'U' :: rest => (codePoint? 8 rest).map fun c => (c, 9)
  | _ => none

/-- A string in double quotes, after the first; `skip` characters belong to an escape. -/
def basicString? : Nat → List Char → Option (List Char × List Char)
  | _, [] => none
  | skip + 1, _ :: rest => basicString? skip rest
  | 0, '"' :: rest => some ([], rest)
  | 0, '\\' :: rest =>
    match escape? rest with
    | none => none
    | some (c, count) => (basicString? count rest).map fun (text, rest) => (c :: text, rest)
  | 0, c :: rest =>
    if isPlain c then (basicString? 0 rest).map fun (text, rest) => (c :: text, rest) else none

/-- A string in single quotes, after the first. -/
def literalString? : List Char → Option (List Char × List Char)
  | [] => none
  | '\'' :: rest => some ([], rest)
  | c :: rest =>
    if isPlain c then (literalString? rest).map fun (text, rest) => (c :: text, rest) else none

/-- How many times a character stands at the start of a text. -/
def runLength (c : Char) (s : List Char) : Nat :=
  (s.takeWhile (· == c)).length

/-- Whether only blanks stand before the end of the line. -/
def endsLine (s : List Char) : Bool :=
  (lineEnd? (skipSpace s)).isSome

/-- Drops the blanks and ends of lines at the start of a text. -/
def skipBlankLines : List Char → List Char
  | [] => []
  | c :: rest =>
    if isSpace c || c == '\n' then skipBlankLines rest
    else
      match c, rest with
      | '\r', '\n' :: more => skipBlankLines more
      | _, _ => c :: rest

/--
The rest of a string of several lines, up to the three quotes that end it.  One or two quotes more
belong to the string.  Between double quotes there are escapes, and one at the end of a line drops
the blanks up to the next character.
-/
def longString? (quote : Char) (escapes : Bool) : Nat → List Char →
    Option (List Char × List Char)
  | 0, _ => none
  | _, [] => none
  | steps + 1, c :: rest =>
    let more (c : Char) (rest : List Char) : Option (List Char × List Char) :=
      (longString? quote escapes steps rest).map fun (text, rest) => (c :: text, rest)
    if c == quote then
      let run := runLength quote (c :: rest)
      if run < 3 then more c rest
      else if run < 6 then some (List.replicate (run - 3) quote, (c :: rest).drop run)
      else none
    else if c == '\\' && escapes then
      if endsLine rest then longString? quote escapes steps (skipBlankLines rest)
      else
        match escape? rest with
        | none => none
        | some (c, count) => more c (rest.drop count)
    else if c == '\n' then more '\n' rest
    else if c == '\r' then
      match rest with
      | '\n' :: rest => more '\n' rest
      | _ => none
    else if isPlain c then more c rest
    else none

/-- Drops the end of a line at the start of a text. -/
def dropLineEnd (s : List Char) : List Char :=
  (lineEnd? s).getD s

/-- A string that is a value. -/
def string? (s : List Char) : Option (String × List Char) :=
  let read? : Option (List Char × List Char) :=
    match s with
    | '"' :: '"' :: '"' :: rest => longString? '"' true (rest.length + 1) (dropLineEnd rest)
    | '"' :: rest => basicString? 0 rest
    | '\'' :: '\'' :: '\'' :: rest => longString? '\'' false (rest.length + 1) (dropLineEnd rest)
    | '\'' :: rest => literalString? rest
    | _ => none
  read?.map fun (text, rest) => (String.ofList text, rest)

/-! ## Keys -/

/-- Whether a character may stand in a key without quotes. -/
def isKeyChar (c : Char) : Bool :=
  c.isAlphanum || c == '-' || c == '_'

/-- One part of a key. -/
def keyPart? (s : List Char) : Option (String × List Char) :=
  let read? : Option (List Char × List Char) :=
    match s with
    | '"' :: rest => basicString? 0 rest
    | '\'' :: rest => literalString? rest
    | _ =>
      let part := s.takeWhile isKeyChar
      if part.isEmpty then none else some (part, s.drop part.length)
  read?.map fun (part, rest) => (String.ofList part, rest)

/-- The parts of a key, separated by points, with blanks around them; at most `count` parts. -/
def keyParts? : Nat → List Char → Option (List String × List Char)
  | 0, _ => none
  | count + 1, s =>
    match keyPart? (skipSpace s) with
    | none => none
    | some (part, rest) =>
      match skipSpace rest with
      | '.' :: rest => (keyParts? count rest).map fun (parts, rest) => (part :: parts, rest)
      | rest => some ([part], rest)

/-- The greatest number of parts of a key, and of arrays and tables within each other. -/
def maxNesting : Nat := 79

/-- A key at the start of a text, with the blanks around it. -/
def key? (s : List Char) : Option (List String × List Char) :=
  keyParts? maxNesting s

/-! ## Numbers -/

/-- More digits with single underscores between them; where one is `needed`, one must stand. -/
def digitsFrom? (isDigit : Char → Bool) : Bool → List Char → Option (List Char × List Char)
  | true, [] => none
  | false, [] => some ([], [])
  | needed, c :: rest =>
    if isDigit c then
      (digitsFrom? isDigit false rest).map fun (digits, rest) => (c :: digits, rest)
    else if needed then none
    else if c == '_' then digitsFrom? isDigit true rest
    else some ([], c :: rest)

/-- Digits, with single underscores between them. -/
def groupedDigits? (isDigit : Char → Bool) (s : List Char) : Option (List Char × List Char) :=
  digitsFrom? isDigit true s

/-- The whole part of a decimal number: zero, or digits that do not start with it. -/
def wholePart? (s : List Char) : Option (List Char × List Char) :=
  match s with
  | '0' :: rest => some (['0'], rest)
  | _ => groupedDigits? Char.isDigit s

/-- The least and the greatest integer of 64 bits. -/
def isWord (n : Int) : Bool :=
  -(Nat.pow 2 63 : Int) ≤ n && n < (Nat.pow 2 63 : Int)

/-- An integer, if it has 64 bits. -/
def integerOf? (n : Int) : Option Toml :=
  if isWord n then some (.integer n) else none

/-- The value of digits in a base. -/
def digitsValue (base : Nat) (digits : List Char) : Nat :=
  digits.foldl (fun value c => value * base + ((hexValue? [c]).getD 0)) 0

/-- An integer in a base other than ten, after the letter that names the base. -/
def based? (base : Nat) (s : List Char) : Option (Toml × List Char) := do
  let isDigit (c : Char) : Bool := (hexValue? [c]).any (· < base)
  let (digits, rest) ← groupedDigits? isDigit s
  return (← integerOf? (digitsValue base digits), rest)

/-- The fraction of a number at the start of a text, with its point; none if there is none. -/
def fraction? (s : List Char) : Option (List Char × List Char) :=
  match s with
  | '.' :: rest =>
    (groupedDigits? Char.isDigit rest).map fun (digits, rest) => ('.' :: digits, rest)
  | _ => some ([], s)

/-- The exponent of a number after its letter. -/
def exponentDigits? (s : List Char) : Option (List Char × List Char) :=
  match s with
  | '+' :: rest => groupedDigits? Char.isDigit rest
  | '-' :: rest =>
    (groupedDigits? Char.isDigit rest).map fun (digits, rest) => ('-' :: digits, rest)
  | _ => groupedDigits? Char.isDigit s

/-- The exponent of a number at the start of a text, with its letter; none if there is none. -/
def exponent? (s : List Char) : Option (List Char × List Char) :=
  let read (rest : List Char) : Option (List Char × List Char) :=
    (exponentDigits? rest).map fun (digits, rest) => ('e' :: digits, rest)
  match s with
  | 'e' :: rest => read rest
  | 'E' :: rest => read rest
  | _ => some ([], s)

/-- The floating-point number of a literal; it must not be too large. -/
def floatOf? (literal : List Char) : Option Toml :=
  match Binary64.ofLiteral? literal with
  | some (.infinite false) => none
  | some x => some (.float x)
  | none => none

/-- A decimal number after its sign. -/
def decimal? (negative : Bool) (s : List Char) : Option (Toml × List Char) := do
  let (whole, rest) ← wholePart? s
  let (fraction, rest) ← fraction? rest
  let (exponent, rest) ← exponent? rest
  if fraction.isEmpty && exponent.isEmpty then
    let magnitude : Int := Digits.toNat whole
    return (← integerOf? (if negative then -magnitude else magnitude), rest)
  else
    let sign := if negative then ['-'] else []
    return (← floatOf? (sign ++ whole ++ fraction ++ exponent), rest)

/-- A number after its sign: an infinity, the undefined number, or a decimal number. -/
def signed? (negative : Bool) (s : List Char) : Option (Toml × List Char) :=
  match s with
  | 'i' :: 'n' :: 'f' :: rest => some (.float (.infinite negative), rest)
  | 'n' :: 'a' :: 'n' :: rest => some (.float .nan, rest)
  | _ => decimal? negative s

/-- A number. -/
def number? (s : List Char) : Option (Toml × List Char) :=
  match s with
  | '0' :: 'x' :: rest => based? 16 rest
  | '0' :: 'o' :: rest => based? 8 rest
  | '0' :: 'b' :: rest => based? 2 rest
  | '+' :: rest => signed? false rest
  | '-' :: rest => signed? true rest
  | _ => signed? false s

/-! ## Dates and times of day -/

/-- A number of so many digits between two bounds. -/
def between? (count low high : Nat) (s : List Char) : Option (Nat × List Char) :=
  let digits := s.take count
  let value := Digits.toNat digits
  if digits.length = count && digits.all Char.isDigit && low ≤ value && value ≤ high then
    some (value, s.drop count)
  else none

/-- The text after a character. -/
def after? (c : Char) : List Char → Option (List Char)
  | d :: rest => if d == c then some rest else none
  | [] => none

/-- How many days a month has. -/
def daysIn (year month : Nat) : Nat :=
  if month == 2 then
    if year % 4 == 0 && (year % 100 != 0 || year % 400 == 0) then 29 else 28
  else if month == 4 || month == 6 || month == 9 || month == 11 then 30
  else 31

/-- The text after a date. -/
def date? (s : List Char) : Option (List Char) := do
  let (year, s) ← between? 4 0 9999 s
  let (month, s) ← between? 2 1 12 (← after? '-' s)
  let (_, s) ← between? 2 1 (daysIn year month) (← after? '-' s)
  return s

/-- The text after a fraction of a second, if there is one. -/
def skipFraction (s : List Char) : List Char :=
  match s with
  | '.' :: c :: rest => if c.isDigit then rest.dropWhile Char.isDigit else s
  | _ => s

/-- The text after a time of day. -/
def timeOfDay? (s : List Char) : Option (List Char) := do
  let (_, s) ← between? 2 0 23 s
  let (_, s) ← between? 2 0 59 (← after? ':' s)
  let (_, s) ← between? 2 0 60 (← after? ':' s)
  return skipFraction s

/-- The text after an offset in hours and minutes. -/
def offset? (s : List Char) : Option (List Char) := do
  let (_, s) ← between? 2 0 23 s
  let (_, s) ← between? 2 0 59 (← after? ':' s)
  return s

/-- The text after the offset of a time, if there is one; none if it is malformed. -/
def skipOffset? (s : List Char) : Option (List Char) :=
  match s with
  | 'Z' :: rest => some rest
  | 'z' :: rest => some rest
  | '+' :: rest => offset? rest
  | '-' :: rest => offset? rest
  | _ => some s

/-- The text after the time that belongs to a date, if there is one. -/
def skipTime? (s : List Char) : Option (List Char) :=
  match s with
  | c :: rest =>
    if c == 'T' || c == 't' || c == ' ' then
      match timeOfDay? rest with
      | some rest => skipOffset? rest
      | none => some s
    else some s
  | [] => some []

/-- The text after a date, a time of day, or both. -/
def dateTime? (s : List Char) : Option (List Char) :=
  match date? s with
  | some rest => skipTime? rest
  | none => timeOfDay? s

/-- A number or a date. -/
def numberOrDate? (s : List Char) : Option (Toml × List Char) :=
  match dateTime? s with
  | some rest => some (.dateTime, rest)
  | none => number? s

end Ensemble.Toml
