import Ensemble.Number.Shortest

/-!
# TOML values

The values of a TOML document.  A table remembers how it came about, because that decides which
later parts of the document may add to it: a table with a header of its own is complete once it has
been written, a table that a longer header implies may still get its own header, and a table that
dotted keys made may only get more dotted keys.

`Toml.insert?` adds a key with its value to a table, and `Toml.descend?` goes where a header leads.
-/

namespace Ensemble

/-- How a table of a document came about. -/
inductive TableOrigin where
  /-- By a header of its own. -/
  | header
  /-- By the header of a table inside it. -/
  | implied
  /-- By a dotted key. -/
  | dotted
  /-- Written as a value, in braces. -/
  | inline
  deriving DecidableEq, Repr

/-- A value of a document. -/
inductive Toml where
  | string (text : String)
  | integer (value : Int)
  | float (value : Binary64)
  | boolean (value : Bool)
  /-- A date, a time of day, or both. -/
  | dateTime
  | array (items : List Toml)
  /-- Tables with the same header in double brackets. -/
  | tables (items : List (List (String × Toml)))
  | table (origin : TableOrigin) (members : List (String × Toml))
  deriving Repr, Inhabited

/-- The keys of a table with their values. -/
abbrev TomlMembers : Type := List (String × Toml)

namespace Toml

/-- Puts a value under a key, in place of the one there. -/
def put (key : String) (value : Toml) : TomlMembers → TomlMembers
  | [] => [(key, value)]
  | (other, old) :: rest =>
    if other == key then (key, value) :: rest else (other, old) :: put key value rest

/-- Changes the last item of a list. -/
def changeLast? {α : Type} (f : α → Option α) : List α → Option (List α)
  | [] => none
  | [item] => (f item).map ([·])
  | item :: rest => (changeLast? f rest).map (item :: ·)

/-- Adds a value under a key that is not taken. -/
def add? (key : String) (value : Toml) (members : TomlMembers) : Option TomlMembers :=
  match members.lookup key with
  | none => some (members ++ [(key, value)])
  | some _ => none

/--
Adds a value under a dotted key.  The tables on the way are made where they are missing; those that
are there must not have been completed, and the last of them must have come from a dotted key.
-/
def insertBelow? (origin : TableOrigin) : List String → Toml → TomlMembers → Option TomlMembers
  | [], _, _ => none
  | [key], value, members => if origin == .dotted then add? key value members else none
  | key :: path, value, members =>
    match members.lookup key with
    | none =>
      (insertBelow? .dotted path value []).map fun inner =>
        members ++ [(key, .table .dotted inner)]
    | some (.table .implied inner) =>
      (insertBelow? .implied path value inner).map fun inner =>
        put key (.table .implied inner) members
    | some (.table .dotted inner) =>
      (insertBelow? .dotted path value inner).map fun inner =>
        put key (.table .dotted inner) members
    | some (.tables items) =>
      (changeLast? (insertBelow? .header path value) items).map fun items =>
        put key (.tables items) members
    | some _ => none

/-- Adds a value under a key that may be dotted. -/
def insert? (path : List String) (value : Toml) (members : TomlMembers) : Option TomlMembers :=
  match path with
  | [key] => add? key value members
  | path => insertBelow? .header path value members

/-- Adds values under their keys, one after the other. -/
def insertAll? (pairs : List (List String × Toml)) (members : TomlMembers) : Option TomlMembers :=
  pairs.foldlM (fun members (path, value) => insert? path value members) members

/--
Changes the table that a path of a header leads to.  Tables that are missing on the way are implied;
of tables with the same header the last is entered.
-/
def descend? (f : TomlMembers → Option TomlMembers) : List String → TomlMembers →
    Option TomlMembers
  | [], members => f members
  | key :: path, members =>
    match members.lookup key with
    | none => (descend? f path []).map fun inner => members ++ [(key, .table .implied inner)]
    | some (.table .inline _) => none
    | some (.table origin inner) =>
      (descend? f path inner).map fun inner => put key (.table origin inner) members
    | some (.tables items) =>
      (changeLast? (descend? f path) items).map fun items => put key (.tables items) members
    | some _ => none

/-- Completes the table under a key, which must be missing or implied. -/
def completeTable? (key : String) (pairs : List (List String × Toml)) (members : TomlMembers) :
    Option TomlMembers :=
  match members.lookup key with
  | none => (insertAll? pairs []).map fun inner => members ++ [(key, .table .header inner)]
  | some (.table .implied inner) =>
    (insertAll? pairs inner).map fun inner => put key (.table .header inner) members
  | some _ => none

/-- Adds a table to those with the same header. -/
def appendTable? (key : String) (pairs : List (List String × Toml)) (members : TomlMembers) :
    Option TomlMembers :=
  match members.lookup key with
  | none => (insertAll? pairs []).map fun inner => members ++ [(key, .tables [inner])]
  | some (.tables items) =>
    (insertAll? pairs []).map fun inner => put key (.tables (items ++ [inner])) members
  | some _ => none

/-- A value that has been put under a key is found there. -/
@[simp] theorem lookup_put (key : String) (value : Toml) (members : TomlMembers) :
    (put key value members).lookup key = some value := by
  induction members with
  | nil => simp [put]
  | cons head rest ih =>
    obtain ⟨other, old⟩ := head
    simp only [put]
    split
    · simp
    next h =>
      simp only [List.lookup_cons]
      split
      next same => exact absurd (beq_iff_eq.2 (beq_iff_eq.1 same).symm) h
      · exact ih

end Toml

end Ensemble
