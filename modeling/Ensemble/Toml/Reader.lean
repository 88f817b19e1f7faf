import Ensemble.Toml.Scalar

/-!
# Reading TOML documents

A document is read in two steps.  First its text is taken apart into sections: the pairs before the
first header, and the pairs below each header.  Then the sections are put together into one table,
which fails if a key or a table is given twice.
-/

namespace Ensemble.Toml

/-! ## Values -/

/-- The table of pairs written in braces. -/
def inlineTable? (pairs : List (List String × Toml)) : Option Toml :=
  (insertAll? pairs []).map (.table .inline)

mutual

/-- A value, with at most `nesting` arrays and tables within each other. -/
def value? : Nat → Nat → List Char → Option (Toml × List Char)
  | 0, _, _ => none
  | steps + 1, nesting, s =>
    match s with
    | '"' :: _ => (string? s).map fun (text, rest) => (.string text, rest)
    | '\'' :: _ => (string? s).map fun (text, rest) => (.string text, rest)
    | 't' :: 'r' :: 'u' :: 'e' :: rest => some (.boolean true, rest)
    | 'f' :: 'a' :: 'l' :: 's' :: 'e' :: rest => some (.boolean false, rest)
    | '[' :: rest =>
      match nesting with
      | 0 => none
      | nesting + 1 =>
        (items? steps nesting (skipLines false rest)).map fun (items, rest) => (.array items, rest)
    | '\x7b' :: rest =>
      match nesting with
      | 0 => none
      | nesting + 1 =>
        match skipSpace rest with
        | '\x7d' :: rest => some (.table .inline [], rest)
        | rest => do
          let (pairs, rest) ← pairs? steps nesting rest
          return (← inlineTable? pairs, rest)
    | _ => numberOrDate? s

/-- The items of an array up to its closing bracket; a comma may stand after the last. -/
def items? : Nat → Nat → List Char → Option (List Toml × List Char)
  | 0, _, _ => none
  | steps + 1, nesting, s =>
    match s with
    | ']' :: rest => some ([], rest)
    | _ =>
      match value? steps nesting s with
      | none => none
      | some (item, rest) =>
        match skipLines false rest with
        | ']' :: rest => some ([item], rest)
        | ',' :: rest =>
          (items? steps nesting (skipLines false rest)).map fun (items, rest) =>
            (item :: items, rest)
        | _ => none

/-- The pairs in braces up to the closing brace; there is at least one. -/
def pairs? : Nat → Nat → List Char → Option (List (List String × Toml) × List Char)
  | 0, _, _ => none
  | steps + 1, nesting, s =>
    match key? s with
    | none => none
    | some (key, rest) =>
      match after? '=' rest with
      | none => none
      | some rest =>
        match value? steps nesting (skipSpace rest) with
        | none => none
        | some (value, rest) =>
          match skipSpace rest with
          | '\x7d' :: rest => some ([(key, value)], rest)
          | ',' :: rest =>
            (pairs? steps nesting rest).map fun (pairs, rest) => ((key, value) :: pairs, rest)
          | _ => none

end

/-! ## Sections -/

/-- A header, by the parts of its key. -/
inductive Header where
  | table (path : List String)
  | tables (path : List String)
  deriving DecidableEq, Repr

/-- What a line of a document holds. -/
inductive Line where
  | header (header : Header)
  | pair (key : List String) (value : Toml)

/-- A header after its first bracket. -/
def header? (s : List Char) : Option (Header × List Char) :=
  match s with
  | '[' :: rest => do
    let (path, rest) ← key? rest
    return (.tables path, ← after? ']' (← after? ']' rest))
  | _ => do
    let (path, rest) ← key? s
    return (.table path, ← after? ']' rest)

/-- A pair of a key and a value. -/
def pair? (s : List Char) : Option (Line × List Char) := do
  let (key, rest) ← key? s
  let start := skipSpace (← after? '=' rest)
  let (value, rest) ← value? (2 * start.length + 2) maxNesting start
  return (.pair key value, rest)

/-- A line with a header or a pair, and the text after it. -/
def line? (s : List Char) : Option (Line × List Char) := do
  let (line, rest) ←
    match s with
    | '[' :: rest => (header? rest).map fun (header, rest) => (Line.header header, rest)
    | _ => pair? s
  return (line, ← afterLine? rest)

/-- The lines of a document that hold something, found in at most `steps` steps. -/
def linesWithin? : Nat → List Char → Option (List Line)
  | 0, _ => none
  | steps + 1, s =>
    match skipSpace s with
    | [] => some []
    | '#' :: rest => (afterLine? ('#' :: rest)).bind (linesWithin? steps)
    | start =>
      match lineEnd? start with
      | some rest => linesWithin? steps rest
      | none => do
        let (line, rest) ← line? start
        return line :: (← linesWithin? steps rest)

/-! ## Documents -/

/-- The pairs below a header. -/
structure Section where
  header : Header
  pairs : List (List String × Toml)

/-- The pairs before the first header, and the sections from there on. -/
def sectionsOf : List Line → List (List String × Toml) × List Section
  | [] => ([], [])
  | line :: rest =>
    let (pairs, sections) := sectionsOf rest
    match line with
    | .pair key value => ((key, value) :: pairs, sections)
    | .header header => ([], ⟨header, pairs⟩ :: sections)

/-- Adds a section to a document. -/
def place? (members : TomlMembers) (s : Section) : Option TomlMembers :=
  match s.header with
  | .table path =>
    match path.getLast? with
    | none => none
    | some key => descend? (completeTable? key s.pairs) path.dropLast members
  | .tables path =>
    match path.getLast? with
    | none => none
    | some key => descend? (appendTable? key s.pairs) path.dropLast members

/-- The text without a mark of the byte order. -/
def dropOrderMark (s : List Char) : List Char :=
  match s with
  | '\ufeff' :: rest => rest
  | _ => s

/-- The table that a document denotes. -/
def read? (text : String) : Option Toml := do
  let s := dropOrderMark text.toList
  let (pairs, sections) := sectionsOf (← linesWithin? (s.length + 1) s)
  return .table .header (← sections.foldlM place? (← insertAll? pairs []))

end Ensemble.Toml
