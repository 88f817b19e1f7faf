import Ensemble.Json.Writer
import Ensemble.Number.Word

/-!
# Documents of a known shape

How JSON values are read as texts, numbers, lists, choices and records.  Each reader returns `none`
for a value that does not have the shape it asks for.

* A *record* is an object whose members are found by name, or an array whose items are the fields in
  order.  Members with unknown names are ignored; a known name may stand only once; missing fields
  are left to the reader of the record.
* A *choice* is the name of an alternative, or an object whose only member is that name with `null`.
-/

namespace Ensemble.Json

/-- A text. -/
def text? : Json → Option String
  | .string text => text
  | _ => none

/-- A truth value. -/
def bool? : Json → Option Bool
  | .bool value => some value
  | _ => none

/-- A natural number up to a bound. -/
def natural? (bound : Nat) : Json → Option Nat
  | .number n => n.natural?.filter (· ≤ bound)
  | _ => none

/-- A floating-point number. -/
def float? : Json → Option Binary64
  | .number n => n.float?
  | _ => none

/-- A list whose items all have a shape. -/
def list? {α : Type} (read : Json → Option α) : Json → Option (List α)
  | .array items => items.mapM read
  | _ => none

/-- Either `null` or a value of a shape. -/
def nullable? {α : Type} (read : Json → Option α) : Json → Option (Option α)
  | .null => some none
  | value => (read value).map some

/-- One of several named alternatives. -/
def choice? {α : Type} (alternatives : List (String × α)) : Json → Option α
  | .string (some name) => alternatives.lookup name
  | .object [(some name, .null)] => alternatives.lookup name
  | _ => none

/-! ## Records -/

/-- The value of a member that may stand only once: `none` if it is repeated. -/
def unique? (name : String) (members : List (Option String × Json)) : Option (Option Json) :=
  match members.filter fun m => m.1 == some name with
  | [] => some none
  | [(_, value)] => some (some value)
  | _ => none

/-- The fields of a record, in the order of their names. -/
def fields? (names : List String) : Json → Option (List (Option Json))
  | .object members =>
    if members.all fun m => m.1.isSome then names.mapM fun name => unique? name members else none
  | .array items =>
    if items.length ≤ names.length then
      some (items.map some ++ List.replicate (names.length - items.length) none)
    else none
  | _ => none

/-- A field that must be present. -/
def required? {α : Type} (read : Json → Option α) (field : Option Json) : Option α :=
  field.bind read

/-- A field with a value to take if it is absent. -/
def orDefault? {α : Type} (read : Json → Option α) (default : α) : Option Json → Option α
  | none => some default
  | some value => read value

/-- A field that may be absent or `null`. -/
def optional? {α : Type} (read : Json → Option α) : Option Json → Option (Option α)
  | none => some none
  | some value => nullable? read value

/-- An absent field takes its default. -/
@[simp] theorem orDefault?_none {α : Type} (read : Json → Option α) (default : α) :
    orDefault? read default none = some default := rfl

/-- An absent optional field is empty. -/
@[simp] theorem optional?_none {α : Type} (read : Json → Option α) :
    optional? read none = some none := rfl

end Ensemble.Json
