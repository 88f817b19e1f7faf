import Ensemble.Json.Basic

/-!
# Reading JSON

`Json.read?` reads a text as one JSON value, with nothing but blanks around it.  The blanks of JSON
are the space, the tab, the line feed and the carriage return; strings hold no unescaped control
characters below U+0020; numbers have no leading zeros and at least one digit on each side of a
point.

The readers below take a text and return a value with the rest of the text.  The nested ones are
bounded by a count of steps, and `read?` allows more steps than a text of that length can take.
-/

namespace Ensemble.Json

/-- The blanks of JSON. -/
def isSpace (c : Char) : Bool :=
  c == ' ' || c == '\n' || c == '\t' || c == '\r'

/-- Takes the blanks off the start of a text. -/
def skipSpace (s : List Char) : List Char :=
  s.dropWhile isSpace

/-! ## Numbers -/

/-- The whole part of a number: a zero, or digits that start with another digit. -/
def whole? (s : List Char) : Option (List Char × List Char) :=
  let (digits, rest) := Digits.span s
  match digits with
  | [] => none
  | '0' :: _ :: _ => none
  | _ => some (digits, rest)

/-- An optional fraction; a point is followed by at least one digit. -/
def fraction? (s : List Char) : Option (List Char × List Char) :=
  match s with
  | '.' :: more =>
    let (digits, rest) := Digits.span more
    if digits.isEmpty then none else some (digits, rest)
  | _ => some ([], s)

/-- The sign and the digits of an exponent, after its letter. -/
def exponentDigits? (s : List Char) : Option (Option (Bool × List Char) × List Char) :=
  let (negative, more) :=
    match s with
    | '-' :: more => (true, more)
    | '+' :: more => (false, more)
    | _ => (false, s)
  let (digits, rest) := Digits.span more
  if digits.isEmpty then none else some (some (negative, digits), rest)

/-- An optional exponent. -/
def exponent? (s : List Char) : Option (Option (Bool × List Char) × List Char) :=
  match s with
  | 'e' :: more => exponentDigits? more
  | 'E' :: more => exponentDigits? more
  | _ => some (none, s)

/-- A number at the start of a text. -/
def numeral? (s : List Char) : Option (Numeral × List Char) := do
  let (negative, s) :=
    match s with
    | '-' :: more => (true, more)
    | _ => (false, s)
  let (whole, s) ← whole? s
  let (fraction, s) ← fraction? s
  let (exponent, s) ← exponent? s
  return (⟨negative, whole, fraction, exponent⟩, s)

/-! ## Strings -/

/-- A part of a string: a character, or an escaped unit of 16 bits. -/
inductive StringPart where
  | char (c : Char)
  | unit (code : Nat)
  deriving DecidableEq, Repr

/-- The value of a hexadecimal digit in either letter case. -/
def hex? (c : Char) : Option Nat :=
  if '0' ≤ c ∧ c ≤ '9' then some (c.toNat - '0'.toNat)
  else if 'a' ≤ c ∧ c ≤ 'f' then some (c.toNat - 'a'.toNat + 10)
  else if 'A' ≤ c ∧ c ≤ 'F' then some (c.toNat - 'A'.toNat + 10)
  else none

/-- The unit that four hexadecimal digits denote. -/
def unit? : List Char → Option Nat
  | [a, b, c, d] => do
    return ((← hex? a) * 16 + (← hex? b)) * 256 + ((← hex? c) * 16 + (← hex? d))
  | _ => none

/-- The character that an escape of one letter stands for. -/
def simpleEscape? : Char → Option Char
  | '"' => some '"'
  | '\\' => some '\\'
  | '/' => some '/'
  | 'b' => some '\x08'
  | 'f' => some '\x0c'
  | 'n' => some '\n'
  | 'r' => some '\r'
  | 't' => some '\t'
  | _ => none

/-- The parts of a string after its opening quote, and what follows the closing one. -/
def stringParts? : List Char → Option (List StringPart × List Char)
  | [] => none
  | '"' :: rest => some ([], rest)
  | '\\' :: 'u' :: a :: b :: c :: d :: rest => do
    let code ← unit? [a, b, c, d]
    let (parts, rest) ← stringParts? rest
    return (.unit code :: parts, rest)
  | '\\' :: c :: rest => do
    let c ← simpleEscape? c
    let (parts, rest) ← stringParts? rest
    return (.char c :: parts, rest)
  | c :: rest =>
    if c.toNat < 0x20 || c == '\\' then none
    else do
      let (parts, rest) ← stringParts? rest
      return (.char c :: parts, rest)

/-- Whether a unit is the first half of a surrogate pair. -/
def isHighSurrogate (code : Nat) : Bool :=
  0xD800 ≤ code && code < 0xDC00

/-- Whether a unit is the second half of a surrogate pair. -/
def isLowSurrogate (code : Nat) : Bool :=
  0xDC00 ≤ code && code < 0xE000

/-- The characters of a string; none if half of a surrogate pair has no partner. -/
def joinParts? : List StringPart → Option (List Char)
  | [] => some []
  | .char c :: rest => (joinParts? rest).map (c :: ·)
  | .unit high :: .unit low :: rest =>
    if isHighSurrogate high then
      if isLowSurrogate low then
        (joinParts? rest).map
          (Char.ofNat (0x10000 + (high - 0xD800) * 0x400 + (low - 0xDC00)) :: ·)
      else none
    else if isLowSurrogate high then none
    else (joinParts? (.unit low :: rest)).map (Char.ofNat high :: ·)
  | .unit code :: rest =>
    if isHighSurrogate code || isLowSurrogate code then none
    else (joinParts? rest).map (Char.ofNat code :: ·)

/-- A string after its opening quote. -/
def stringText? (s : List Char) : Option (Option String × List Char) :=
  (stringParts? s).map fun (parts, rest) => ((joinParts? parts).map String.ofList, rest)

/-! ## Values -/

mutual

/-- A value at the start of a text. -/
def value? : Nat → List Char → Option (Json × List Char)
  | 0, _ => none
  | steps + 1, s =>
    match skipSpace s with
    | 'n' :: 'u' :: 'l' :: 'l' :: rest => some (.null, rest)
    | 't' :: 'r' :: 'u' :: 'e' :: rest => some (.bool true, rest)
    | 'f' :: 'a' :: 'l' :: 's' :: 'e' :: rest => some (.bool false, rest)
    | '"' :: rest => (stringText? rest).map fun (text, rest) => (.string text, rest)
    | '[' :: rest =>
      match skipSpace rest with
      | ']' :: rest => some (.array [], rest)
      | rest => (items? steps rest).map fun (items, rest) => (.array items, rest)
    | '\x7b' :: rest =>
      match skipSpace rest with
      | '\x7d' :: rest => some (.object [], rest)
      | rest => (members? steps rest).map fun (members, rest) => (.object members, rest)
    | start => (numeral? start).map fun (n, rest) => (.number n, rest)

/-- The items of an array up to its closing bracket; there is at least one. -/
def items? : Nat → List Char → Option (List Json × List Char)
  | 0, _ => none
  | steps + 1, s =>
    match value? steps s with
    | none => none
    | some (item, rest) =>
      match skipSpace rest with
      | ']' :: rest => some ([item], rest)
      | ',' :: rest => (items? steps rest).map fun (items, rest) => (item :: items, rest)
      | _ => none

/-- The members of an object up to its closing brace; there is at least one. -/
def members? : Nat → List Char → Option (List (Option String × Json) × List Char)
  | 0, _ => none
  | steps + 1, s =>
    match skipSpace s with
    | '"' :: rest =>
      match stringText? rest with
      | none => none
      | some (name, rest) =>
        match skipSpace rest with
        | ':' :: rest =>
          match value? steps rest with
          | none => none
          | some (value, rest) =>
            match skipSpace rest with
            | '\x7d' :: rest => some ([(name, value)], rest)
            | ',' :: rest =>
              (members? steps rest).map fun (members, rest) => ((name, value) :: members, rest)
            | _ => none
        | _ => none
    | _ => none

end

/-- The value that a text denotes, if it is one JSON value. -/
def read? (text : String) : Option Json := do
  let s := text.toList
  let (value, rest) ← value? (2 * s.length + 2) s
  guard (skipSpace rest).isEmpty
  return value

/-- The numeral that a text is, if it is one. -/
def Numeral.read? (s : List Char) : Option Numeral :=
  match numeral? s with
  | some (n, []) => some n
  | _ => none

end Ensemble.Json
