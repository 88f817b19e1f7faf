/-!
# Identifiers

Groups and reflection cycles are told apart by identifiers of 128 bits.  An identifier is written as
32 hexadecimal digits in lower case, with hyphens after the 8th, 12th, 16th and 20th.  It is read
from that form in either letter case, also without any hyphens, and the hyphenated form may stand in
braces or after `urn:uuid:`.
-/

namespace Ensemble

/-- An identifier of 128 bits. -/
structure Id where
  bits : BitVec 128
  deriving DecidableEq, Repr

namespace Id

/-! ## Writing -/

/-- The lower-case hexadecimal digit of a value below 16. -/
def hexDigit (value : Nat) : Char :=
  if value < 10 then Char.ofNat ('0'.toNat + value) else Char.ofNat ('a'.toNat + value - 10)

/-- The 32 digits of an identifier. -/
def digits (id : Id) : List Char :=
  (List.range 32).map fun i => hexDigit (id.bits.toNat / Nat.pow 16 (31 - i) % 16)

/-- The text of an identifier. -/
def text (id : Id) : String :=
  let d := id.digits
  String.ofList <|
    d.take 8 ++ '-' :: (d.drop 8).take 4 ++ '-' :: (d.drop 12).take 4 ++
      '-' :: (d.drop 16).take 4 ++ '-' :: d.drop 20

/-- The first eight digits, enough to tell identifiers apart in a message. -/
def short (id : Id) : String :=
  String.ofList (id.digits.take 8)

/-! ## Reading -/

/-- The value of a hexadecimal digit. -/
def hexValue? (c : Char) : Option Nat :=
  if '0' ≤ c ∧ c ≤ '9' then some (c.toNat - '0'.toNat)
  else if 'a' ≤ c ∧ c ≤ 'f' then some (c.toNat - 'a'.toNat + 10)
  else if 'A' ≤ c ∧ c ≤ 'F' then some (c.toNat - 'A'.toNat + 10)
  else none

/-- The number that hexadecimal digits denote, most significant first. -/
def hexNumber? (s : List Char) : Option Nat :=
  s.foldlM (fun acc c => (hexValue? c).map (16 * acc + ·)) 0

/-- The identifier with these 32 digits. -/
def ofDigits? (s : List Char) : Option Id :=
  if s.length = 32 then (hexNumber? s).map fun n => ⟨BitVec.ofNat 128 n⟩ else none

/-- The identifier written with hyphens. -/
def ofHyphenated? (s : List Char) : Option Id :=
  let hyphens := [8, 13, 18, 23].all fun i => s[i]? == some '-'
  if s.length = 36 ∧ hyphens then
    ofDigits? (s.take 8 ++ (s.drop 9).take 4 ++ (s.drop 14).take 4 ++ (s.drop 19).take 4 ++
      s.drop 24)
  else none

/-- The scheme that may stand before a hyphenated identifier. -/
def scheme : List Char := "urn:uuid:".toList

/-- The identifier that a text denotes, in any of its written forms. -/
def read? (s : List Char) : Option Id :=
  match s with
  | '\x7b' :: rest => if rest.getLast? = some '\x7d' then ofHyphenated? rest.dropLast else none
  | _ =>
    if scheme.isPrefixOf s then ofHyphenated? (s.drop scheme.length)
    else if s.length = 32 then ofDigits? s
    else ofHyphenated? s

end Id

end Ensemble
