import Ensemble.Toml.Basic

/-!
# Writing TOML documents

A document of settings has keys on their own and sections of keys.  Each key stands on a line with
its value, and each section below its header, set off by an empty line.
-/

namespace Ensemble.Toml

/-- A value of a setting. -/
inductive Setting where
  | boolean (value : Bool)
  | integer (value : Nat)
  | float (value : Binary64)
  deriving DecidableEq, Repr

/-- Keys on their own, and sections of keys. -/
structure Document where
  keys : List (String × Setting)
  sections : List (String × List (String × Setting))

/-- The greatest integer of a document. -/
def maxInteger : Nat := Nat.pow 2 63 - 1

/-- Whether a number is a whole number. -/
def isWhole (x : Binary64) : Bool :=
  match x with
  | .finite _ units => units % Binary64.unitsInOne == 0
  | _ => false

/-- The text of a floating-point number: in full, and with a fraction if it is finite. -/
def floatText (x : Binary64) : String :=
  match x with
  | .nan => "nan"
  | .infinite true => "-inf"
  | .infinite false => "inf"
  | x => String.ofList x.plain ++ (if isWhole x then ".0" else "")

/-- The text of a setting; an integer that is too large has none. -/
def Setting.text? : Setting → Option String
  | .boolean true => some "true"
  | .boolean false => some "false"
  | .integer n => if n ≤ maxInteger then some (toString n) else none
  | .float x => some (floatText x)

/-- The line of a key. -/
def writeKey? (pair : String × Setting) : Option String :=
  pair.2.text?.map fun text => pair.1 ++ " = " ++ text ++ "\n"

/-- The lines of some keys. -/
def writeKeys? (keys : List (String × Setting)) : Option String :=
  (keys.mapM writeKey?).map String.join

/-- The lines of a section. -/
def writeSection? (s : String × List (String × Setting)) : Option String :=
  (writeKeys? s.2).map fun lines => "\n[" ++ s.1 ++ "]\n" ++ lines

/-- The text of a document; none if a setting has none. -/
def Document.write? (d : Document) : Option String := do
  let keys ← writeKeys? d.keys
  let sections ← d.sections.mapM writeSection?
  return keys ++ String.join sections

end Ensemble.Toml
