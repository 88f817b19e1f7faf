import Ensemble.Json.Reader

/-!
# Writing JSON

`Json.write` writes a value on one line without blanks.  Within strings the quote, the backslash and
the characters that some readers take for the end of a line are escaped: the control characters,
U+2028 and U+2029.  A string without a text is written as half of a surrogate pair.

A finite floating-point number becomes a number, and any other becomes `null`.
-/

namespace Ensemble.Json

/-- The hexadecimal digit of a value below 16. -/
def hexOf (value : Nat) : Char :=
  if value < 10 then Char.ofNat ('0'.toNat + value) else Char.ofNat ('a'.toNat + value - 10)

/-- The escape of a unit of 16 bits. -/
def escapeUnit (code : Nat) : List Char :=
  ['\\', 'u', hexOf (code / 4096 % 16), hexOf (code / 256 % 16), hexOf (code / 16 % 16),
    hexOf (code % 16)]

/-- A character as it is written within a string. -/
def escapeChar (c : Char) : List Char :=
  let n := c.toNat
  if c == '"' then ['\\', '"']
  else if c == '\\' then ['\\', '\\']
  else if n < 0x20 || (0x7F ≤ n && n ≤ 0x9F) || n == 0x2028 || n == 0x2029 then escapeUnit n
  else [c]

/-- A string in quotes. -/
def writeString (text : Option String) : List Char :=
  let body :=
    match text with
    | some s => s.toList.flatMap escapeChar
    | none => escapeUnit 0xD800
  '"' :: body ++ ['"']

mutual

/-- The characters of a value. -/
def writeChars : Json → List Char
  | .null => "null".toList
  | .bool true => "true".toList
  | .bool false => "false".toList
  | .number n => n.write
  | .string text => writeString text
  | .array items => '[' :: writeItems items
  | .object members => '\x7b' :: writeMembers members

/-- The items of an array and its closing bracket. -/
def writeItems : List Json → List Char
  | [] => [']']
  | [item] => writeChars item ++ [']']
  | item :: rest => writeChars item ++ ',' :: writeItems rest

/-- The members of an object and its closing brace. -/
def writeMembers : List (Option String × Json) → List Char
  | [] => ['\x7d']
  | [(name, value)] => writeString name ++ ':' :: writeChars value ++ ['\x7d']
  | (name, value) :: rest =>
    writeString name ++ ':' :: writeChars value ++ ',' :: writeMembers rest

end

/-- The text of a value. -/
def write (value : Json) : String :=
  String.ofList (writeChars value)

/-- A floating-point number: a number if it is finite, and `null` otherwise. -/
def float (x : Binary64) : Json :=
  match x.document?.bind Numeral.read? with
  | some n => .number n
  | none => .null

end Ensemble.Json
