import Ensemble.Number.Shortest

/-!
# JSON values

The values that a JSON text denotes.  Objects keep their members in order and keep repeated names,
and numbers keep the digits they were written with, so that it is up to the reader of a value what
it makes of them.

A string may be written with an escape for half of a surrogate pair.  Such a string is well-formed
JSON and denotes no text; it is held as `none`.
-/

namespace Ensemble

/-- A number as it is written: digits, an optional fraction and an optional exponent. -/
structure Numeral where
  negative : Bool
  whole : List Char
  fraction : List Char
  /-- The sign of the exponent, negative or not, and its digits. -/
  exponent : Option (Bool × List Char)
  deriving DecidableEq, Repr

/-- A JSON value. -/
inductive Json where
  | null
  | bool (value : Bool)
  | number (value : Numeral)
  | string (text : Option String)
  | array (items : List Json)
  | object (members : List (Option String × Json))
  deriving Repr, Inhabited

namespace Numeral

/-- The natural number `n` in decimal digits. -/
def ofNat (n : Nat) : Numeral :=
  ⟨false, Digits.ofNat n, [], none⟩

/-- The integer `n` in decimal digits. -/
def ofInt (n : Int) : Numeral :=
  ⟨n < 0, Digits.ofNat n.natAbs, [], none⟩

/-- The natural number that is written; a sign, a fraction or an exponent makes it none. -/
def natural? (n : Numeral) : Option Nat :=
  if !n.negative && n.fraction.isEmpty && n.exponent.isNone then some (Digits.toNat n.whole)
  else none

/-- The value of the exponent. -/
def exponentValue (n : Numeral) : Int :=
  match n.exponent with
  | none => 0
  | some (negative, digits) =>
    if negative then -(Digits.toNat digits : Int) else Digits.toNat digits

/-- The floating-point number that is written, if it is not too large. -/
def float? (n : Numeral) : Option Binary64 :=
  Binary64.scaled? n.negative n.whole n.fraction n.exponentValue

/-- The text of a number. -/
def write (n : Numeral) : List Char :=
  Binary64.signText n.negative ++ n.whole ++
    (if n.fraction.isEmpty then [] else '.' :: n.fraction) ++
    match n.exponent with
    | none => []
    | some (negative, digits) => 'e' :: Binary64.signText negative ++ digits

/-- Writing a natural number and reading it gives it back. -/
@[simp] theorem natural?_ofNat (n : Nat) : (ofNat n).natural? = some n := by
  simp [ofNat, natural?]

end Numeral

namespace Json

/-- A string with a text. -/
def str (text : String) : Json :=
  .string (some text)

/-- A natural number. -/
def nat (n : Nat) : Json :=
  .number (.ofNat n)

/-- An integer. -/
def int (n : Int) : Json :=
  .number (.ofInt n)

/-- An object whose members have names with a text. -/
def record (members : List (String × Json)) : Json :=
  .object (members.map fun (name, value) => (some name, value))

/-- A member that is present only if there is a value for it. -/
def optionalMember {α : Type} (name : String) (encode : α → Json) : Option α → List (String × Json)
  | none => []
  | some value => [(name, encode value)]

/-- The first member of an object with the given name. -/
def member? (name : String) : Json → Option Json
  | .object members => (members.find? fun m => m.1 == some name).map (·.2)
  | _ => none

end Json

end Ensemble
