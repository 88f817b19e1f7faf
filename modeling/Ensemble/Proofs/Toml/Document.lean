import Ensemble.Proofs.Toml.Scalar

/-!
# Documents read back

A document of settings is read as the table of its keys and sections (`exists_write?`), if all names
are bare and differ where they stand side by side, and if every setting can be read.

Writing puts lines in front of what follows, and each piece of the text adds its lines to those of
the rest (`Adds`).  So the lines of a document are found piece by piece, however the pieces are put
together.  Then the lines are sorted into sections and the sections into a table; since the names
differ, no key is given twice.
-/

namespace Ensemble.Toml

variable {s rest : List Char} {c : Char} {name : String}

/-! ## Bare names -/

/-- Whether a name can stand in a document without quotes. -/
def IsBare (name : String) : Prop :=
  name.toList ≠ [] ∧ name.toList.all isKeyChar = true

instance : DecidablePred IsBare :=
  fun name => inferInstanceAs (Decidable (name.toList ≠ [] ∧ name.toList.all isKeyChar = true))

/-- A character of keys differs from one that ends them. -/
theorem ne_of_isKeyChar {d : Char} (key : isKeyChar c = true) (other : isKeyChar d = false) :
    c ≠ d := by
  rintro rfl
  rw [other] at key
  cases key

/-- The characters of keys are no spaces. -/
theorem isSpace_of_isKeyChar (key : isKeyChar c = true) : isSpace c = false := by
  rw [isSpace, beq_false_of_ne (ne_of_isKeyChar key rfl), beq_false_of_ne (ne_of_isKeyChar key rfl),
    Bool.or_self]

/-- A bare name starts with a character of keys. -/
theorem IsBare.exists_eq_cons (bare : IsBare name) :
    ∃ c rest, name.toList = c :: rest ∧ isKeyChar c = true := by
  obtain ⟨some, all⟩ := bare
  obtain ⟨c, rest, cons⟩ := List.exists_cons_of_ne_nil some
  exact ⟨c, rest, cons, List.all_eq_true.1 all c (cons ▸ List.mem_cons_self)⟩

/-- A bare name is read up to the first character that is none of a key. -/
theorem keyPart?_bare (bare : IsBare name) (stop : ∀ c ∈ rest.head?, isKeyChar c = false) :
    keyPart? (name.toList ++ rest) = some (name, rest) := by
  have part : (name.toList ++ rest).takeWhile isKeyChar = name.toList := by
    have ended : rest.takeWhile isKeyChar = [] := by
      cases rest with
      | nil => rfl
      | cons d rest => exact List.takeWhile_cons_of_neg (Bool.not_eq_true _ ▸ stop d rfl)
    rw [List.takeWhile_append_of_pos (List.all_eq_true.1 bare.2), ended, List.append_nil]
  have unquoted {d : Char} (quote : isKeyChar d = false) (later : List Char) :
      name.toList ++ rest ≠ d :: later := by
    obtain ⟨c, more, cons, key⟩ := bare.exists_eq_cons
    rw [cons]
    exact fun eq => ne_of_isKeyChar key quote (List.cons.inj eq).1
  rw [keyPart?]
  · dsimp only
    rw [part, if_neg (mt List.isEmpty_iff.1 bare.1), List.drop_left]
    exact congrArg (fun text => some (text, rest)) String.ofList_toList
  · exact unquoted rfl
  · exact unquoted rfl

/-- A bare name is a key of one part. -/
theorem key?_bare (bare : IsBare name) (stop : ∀ c ∈ rest.head?, isKeyChar c = false)
    (single : ∀ later, skipSpace rest ≠ '.' :: later) :
    key? (name.toList ++ rest) = some ([name], skipSpace rest) := by
  have start : skipSpace (name.toList ++ rest) = name.toList ++ rest := by
    obtain ⟨c, more, cons, key⟩ := bare.exists_eq_cons
    rw [cons]
    exact List.dropWhile_cons_of_neg (Bool.not_eq_true _ ▸ isSpace_of_isKeyChar key)
  have count : maxNesting = 78 + 1 := rfl
  rw [key?, count, keyParts?, start, keyPart?_bare bare stop]
  dsimp only
  split
  next later point => exact absurd point (single later)
  next => rfl

/-! ## Lines -/

/-- Whether a text has these lines, read in as many steps as it has characters and one more. -/
def Holds (s : List Char) (lines : List Line) : Prop :=
  ∀ steps, s.length < steps → linesWithin? steps s = some lines

/-- Whether a text adds lines to those of every text after it. -/
def Adds (text : String) (lines : List Line) : Prop :=
  ∀ rest later, Holds rest later → Holds (text.toList ++ rest) (lines ++ later)

theorem holds_nil : Holds [] [] := by
  intro steps enough
  obtain ⟨steps, rfl⟩ := Nat.exists_eq_succ_of_ne_zero (Nat.ne_of_gt enough)
  rfl

theorem Holds.emptyLine {lines : List Line} (holds : Holds s lines) : Holds ('\n' :: s) lines := by
  intro steps enough
  obtain ⟨steps, rfl⟩ := Nat.exists_eq_succ_of_ne_zero (Nat.ne_zero_of_lt enough)
  exact holds steps (Nat.lt_of_succ_lt_succ enough)

/-- A line starts with a bracket or a bare name. -/
theorem Holds.line {line : Line} {lines : List Line} (start : c = '[' ∨ isKeyChar c = true)
    (read : line? (c :: s) = some (line, rest)) (shorter : rest.length ≤ s.length)
    (holds : Holds rest lines) : Holds (c :: s) (line :: lines) := by
  -- A line that starts a header or a key is neither blank, nor a comment, nor at its end.
  have ne {d : Char} (other : d ≠ '[' ∧ isKeyChar d = false) : c ≠ d := by
    rcases start with rfl | key
    · exact other.1.symm
    · exact ne_of_isKeyChar key other.2
  have blank : skipSpace (c :: s) = c :: s := by
    refine List.dropWhile_cons_of_neg (Bool.not_eq_true _ ▸ ?_)
    rw [isSpace, beq_false_of_ne (ne (by decide)), beq_false_of_ne (ne (by decide)), Bool.or_self]
  intro steps enough
  obtain ⟨steps, rfl⟩ := Nat.exists_eq_succ_of_ne_zero (Nat.ne_zero_of_lt enough)
  have goesOn : lineEnd? (c :: s) = none := by
    rw [lineEnd?]
    · exact fun later eq => ne (by decide) (List.cons.inj eq).1
    · exact fun later eq => ne (by decide) (List.cons.inj eq).1
  have later : linesWithin? steps rest = some lines :=
    holds steps (Nat.lt_of_le_of_lt shorter (Nat.lt_of_succ_lt_succ enough))
  rw [linesWithin?, blank]
  split
  next none => cases none
  next comment => exact absurd (List.cons.inj comment).1 (ne (by decide))
  next =>
    rw [goesOn]
    exact Option.bind_eq_some_iff.2 ⟨_, read, Option.bind_eq_some_iff.2 ⟨_, later, rfl⟩⟩

/-- The line of a bare name and a value. -/
theorem line?_pair {text : List Char} {value : Toml} (bare : IsBare name)
    (read : ∀ steps nesting, value? (steps + 1) nesting (skipSpace (text ++ '\n' :: rest)) =
      some (value, '\n' :: rest)) :
    line? (name.toList ++ ' ' :: '=' :: ' ' :: (text ++ '\n' :: rest)) =
      some (.pair [name] value, rest) := by
  have key : key? (name.toList ++ ' ' :: '=' :: ' ' :: (text ++ '\n' :: rest)) =
      some ([name], '=' :: ' ' :: (text ++ '\n' :: rest)) :=
    key?_bare bare (by rintro _ ⟨⟩; rfl) (by rintro _ ⟨⟩)
  have pair : pair? (name.toList ++ ' ' :: '=' :: ' ' :: (text ++ '\n' :: rest)) =
      some (.pair [name] value, '\n' :: rest) :=
    Option.bind_eq_some_iff.2 ⟨_, key, Option.bind_eq_some_iff.2 ⟨_, rfl,
      Option.bind_eq_some_iff.2 ⟨_, read _ maxNesting, rfl⟩⟩⟩
  obtain ⟨c, more, cons, start⟩ := bare.exists_eq_cons
  rw [cons] at pair ⊢
  have ended : afterLine? ('\n' :: rest) = some rest := rfl
  unfold line?
  split
  next header => exact absurd (List.cons.inj header).1 (ne_of_isKeyChar start rfl)
  next => exact Option.bind_eq_some_iff.2 ⟨_, pair, Option.bind_eq_some_iff.2 ⟨_, ended, rfl⟩⟩

/-- The line of a header with a bare name. -/
theorem line?_header (bare : IsBare name) :
    line? ('[' :: (name.toList ++ ']' :: '\n' :: rest)) = some (.header (.table [name]), rest) := by
  have key : key? (name.toList ++ ']' :: '\n' :: rest) = some ([name], ']' :: '\n' :: rest) :=
    key?_bare bare (by rintro _ ⟨⟩; rfl) (by rintro _ ⟨⟩)
  have header : header? (name.toList ++ ']' :: '\n' :: rest) =
      some (.table [name], '\n' :: rest) := by
    obtain ⟨c, more, cons, start⟩ := bare.exists_eq_cons
    rw [cons] at key ⊢
    rw [header?]
    · exact Option.bind_eq_some_iff.2 ⟨_, key, rfl⟩
    · exact fun later eq => ne_of_isKeyChar start rfl (List.cons.inj eq).1
  exact Option.bind_eq_some_iff.2 ⟨_, Option.map_eq_some_iff.2 ⟨_, header, rfl⟩, rfl⟩

/-! ## What writing adds -/

/-- Nothing adds no lines. -/
theorem adds_empty : Adds "" [] :=
  fun _ _ holds => holds

/-- A text after another one adds its lines after the lines of that. -/
theorem Adds.append {text text' : String} {lines lines' : List Line} (adds : Adds text lines)
    (adds' : Adds text' lines') : Adds (text ++ text') (lines ++ lines') := by
  intro rest later holds
  rw [String.toList_append, List.append_assoc, List.append_assoc]
  exact adds _ _ (adds' _ _ holds)

/-- The line of a key. -/
def keyLine (key : String × Setting) : Line :=
  .pair [key.1] key.2.toToml

/-- The lines of a section. -/
def sectionLines (s : String × List (String × Setting)) : List Line :=
  .header (.table [s.1]) :: s.2.map keyLine

/-- The lines of a document. -/
def Document.lines (d : Document) : List Line :=
  d.keys.map keyLine ++ d.sections.flatMap sectionLines

/-- Whether some keys can be told apart and read. -/
structure AreReadable (keys : List (String × Setting)) : Prop where
  bare : ∀ key ∈ keys, IsBare key.1
  readable : ∀ key ∈ keys, key.2.IsReadable
  distinct : (keys.map Prod.fst).Nodup

/-- Keys with names that are bare and distinct are readable if their settings are. -/
theorem AreReadable.of_names {keys : List (String × Setting)} (names : List String)
    (same : keys.map Prod.fst = names) (bare : ∀ name ∈ names, IsBare name) (distinct : names.Nodup)
    (readable : ∀ key ∈ keys, key.2.IsReadable) : AreReadable keys where
  bare _ mem := bare _ (same ▸ List.mem_map_of_mem mem)
  readable := readable
  distinct := same ▸ distinct

/-- Whether the keys and the sections of a document can be told apart and read. -/
structure Document.IsReadable (d : Document) : Prop where
  keys : AreReadable d.keys
  bare : ∀ s ∈ d.sections, IsBare s.1
  sections : ∀ s ∈ d.sections, AreReadable s.2
  distinct : (d.keys.map Prod.fst ++ d.sections.map Prod.fst).Nodup

/-- A key that can be read is written as one line. -/
theorem exists_writeKey? {key : String × Setting} (bare : IsBare key.1)
    (readable : key.2.IsReadable) :
    ∃ text, writeKey? key = some text ∧ Adds text [keyLine key] := by
  obtain ⟨text, written, read⟩ := exists_text? readable
  refine ⟨key.1 ++ " = " ++ text ++ "\n", by rw [writeKey?, written, Option.map_some],
    fun rest later holds => ?_⟩
  -- the name comes first, and what follows it cannot belong to it
  have shape : (key.1 ++ " = " ++ text ++ "\n").toList ++ rest =
      key.1.toList ++ ' ' :: '=' :: ' ' :: (text.toList ++ '\n' :: rest) := by
    simp
  have line := line?_pair bare (read · · rest)
  obtain ⟨c, more, cons, start⟩ := bare.exists_eq_cons
  rw [shape]
  rw [cons] at line ⊢
  exact Holds.line (.inr start) line (by simp; omega) holds

/-- Texts that are put together add their lines in their order. -/
theorem exists_mapM_adds {α : Type} {write? : α → Option String} {lines : α → List Line}
    {parts : List α}
    (all : ∀ part ∈ parts, ∃ text, write? part = some text ∧ Adds text (lines part)) :
    ∃ texts, parts.mapM write? = some texts ∧ Adds (String.join texts) (parts.flatMap lines) := by
  induction parts with
  | nil => exact ⟨[], rfl, adds_empty⟩
  | cons part parts ih =>
    rw [List.forall_mem_cons] at all
    obtain ⟨⟨text, written, adds⟩, all⟩ := all
    obtain ⟨texts, written', adds'⟩ := ih all
    refine ⟨text :: texts, by rw [List.mapM_cons, written, written']; rfl, ?_⟩
    rw [String.join_cons, List.flatMap_cons]
    exact adds.append adds'

/-- Keys that can be read are written as one line each. -/
theorem exists_writeKeys? {keys : List (String × Setting)} (readable : AreReadable keys) :
    ∃ text, writeKeys? keys = some text ∧ Adds text (keys.map keyLine) := by
  obtain ⟨texts, written, adds⟩ := exists_mapM_adds fun key mem =>
    exists_writeKey? (readable.bare key mem) (readable.readable key mem)
  refine ⟨String.join texts, by rw [writeKeys?, written, Option.map_some], ?_⟩
  rwa [List.map_eq_flatMap]

/-- A section that can be read is written as its header and its keys. -/
theorem exists_writeSection? {s : String × List (String × Setting)} (bare : IsBare s.1)
    (readable : AreReadable s.2) :
    ∃ text, writeSection? s = some text ∧ Adds text (sectionLines s) := by
  obtain ⟨text, written, adds⟩ := exists_writeKeys? readable
  refine ⟨"\n[" ++ s.1 ++ "]\n" ++ text, by rw [writeSection?, written, Option.map_some],
    fun rest later holds => ?_⟩
  have shape : ("\n[" ++ s.1 ++ "]\n" ++ text).toList ++ rest =
      '\n' :: '[' :: (s.1.toList ++ ']' :: '\n' :: (text.toList ++ rest)) := by
    simp
  rw [shape]
  have header : Holds ('[' :: (s.1.toList ++ ']' :: '\n' :: (text.toList ++ rest)))
      (sectionLines s ++ later) :=
    Holds.line (.inl rfl) (line?_header bare) (by simp; omega) (adds rest later holds)
  exact header.emptyLine

/-- The text of a document holds its lines. -/
theorem exists_write?_holds {d : Document} (readable : d.IsReadable) :
    ∃ text, d.write? = some text ∧ Holds text.toList d.lines := by
  obtain ⟨keys, writtenKeys, adds⟩ := exists_writeKeys? readable.keys
  obtain ⟨sections, writtenSections, adds'⟩ := exists_mapM_adds fun s mem =>
    exists_writeSection? (readable.bare s mem) (readable.sections s mem)
  refine ⟨keys ++ String.join sections, ?_, ?_⟩
  · rw [Document.write?, writtenKeys, writtenSections]
    rfl
  · have holds := adds.append adds' [] [] holds_nil
    rwa [List.append_nil, List.append_nil] at holds

/-! ## Tables -/

/-- The members of a table that keys stand for. -/
def keyMembers (keys : List (String × Setting)) : TomlMembers :=
  keys.map fun key => (key.1, key.2.toToml)

/-- The table of a document: its keys, and a table for each section. -/
def Document.members (d : Document) : TomlMembers :=
  keyMembers d.keys ++ d.sections.map fun s => (s.1, .table .header (keyMembers s.2))

/-- The pairs that are read from the lines of keys. -/
def keyPairs (keys : List (String × Setting)) : List (List String × Toml) :=
  keys.map fun key => ([key.1], key.2.toToml)

/-- Keys before all headers belong to the document itself. -/
theorem sectionsOf_keyLines (keys : List (String × Setting)) (later : List Line) :
    sectionsOf (keys.map keyLine ++ later) =
      (keyPairs keys ++ (sectionsOf later).1, (sectionsOf later).2) := by
  induction keys with
  | nil => rfl
  | cons key keys ih =>
    rw [List.map_cons, List.cons_append, sectionsOf, ih]
    rfl

/-- Every header starts a section of its own. -/
theorem sectionsOf_sectionLines (sections : List (String × List (String × Setting))) :
    sectionsOf (sections.flatMap sectionLines) =
      ([], sections.map fun s => ⟨.table [s.1], keyPairs s.2⟩) := by
  induction sections with
  | nil => rfl
  | cons s sections ih =>
    rw [List.flatMap_cons, sectionLines, List.cons_append, sectionsOf, sectionsOf_keyLines, ih,
      List.append_nil]
    rfl

/-- A key that is no member is not found. -/
theorem lookup_of_not_mem {key : String} {members : TomlMembers}
    (new : key ∉ members.map Prod.fst) : members.lookup key = none := by
  refine List.lookup_eq_none_iff.2 fun member mem => bne_iff_ne.2 ?_
  rintro rfl
  exact new (List.mem_map_of_mem mem)

/-- Keys that differ are added to a table one after the other. -/
theorem insertAll?_keyPairs {keys : List (String × Setting)} (members : TomlMembers)
    (distinct : (members.map Prod.fst ++ keys.map Prod.fst).Nodup) :
    insertAll? (keyPairs keys) members = some (members ++ keyMembers keys) := by
  induction keys generalizing members with
  | nil => exact congrArg some (List.append_nil members).symm
  | cons key keys ih =>
    have new : key.1 ∉ members.map Prod.fst := fun mem =>
      (List.nodup_append.1 distinct).2.2 _ mem _ List.mem_cons_self rfl
    have added : add? key.1 key.2.toToml members = some (members ++ [(key.1, key.2.toToml)]) := by
      rw [add?, lookup_of_not_mem new]
    have later := ih (members ++ [(key.1, key.2.toToml)]) (by
      rwa [List.map_append, List.append_assoc])
    rw [List.append_assoc] at later
    exact Option.bind_eq_some_iff.2 ⟨_, added, later⟩

/-- Sections that differ are added to a document one after the other. -/
theorem foldlM_place? {sections : List (String × List (String × Setting))} (members : TomlMembers)
    (distinct : (members.map Prod.fst ++ sections.map Prod.fst).Nodup)
    (keys : ∀ s ∈ sections, (s.2.map Prod.fst).Nodup) :
    (sections.map fun s => (⟨.table [s.1], keyPairs s.2⟩ : Section)).foldlM place? members =
      some (members ++ sections.map fun s => (s.1, .table .header (keyMembers s.2))) := by
  induction sections generalizing members with
  | nil => exact congrArg some (List.append_nil members).symm
  | cons s sections ih =>
    rw [List.forall_mem_cons] at keys
    -- no member has the name of the section yet, so its table is put at the end
    have new : s.1 ∉ members.map Prod.fst := fun mem =>
      (List.nodup_append.1 distinct).2.2 _ mem _ List.mem_cons_self rfl
    have inner : insertAll? (keyPairs s.2) [] = some (keyMembers s.2) :=
      insertAll?_keyPairs [] keys.1
    have placed : place? members ⟨.table [s.1], keyPairs s.2⟩ =
        some (members ++ [(s.1, .table .header (keyMembers s.2))]) := by
      show completeTable? s.1 (keyPairs s.2) members = _
      rw [completeTable?, lookup_of_not_mem new]
      dsimp only
      rw [inner, Option.map_some]
    have later := ih (members ++ [(s.1, .table .header (keyMembers s.2))]) (by
      rwa [List.map_append, List.append_assoc]) keys.2
    rw [List.append_assoc] at later
    exact Option.bind_eq_some_iff.2 ⟨_, placed, later⟩

/-- What holds lines does not start with a mark of the byte order. -/
theorem dropOrderMark_of_holds {lines : List Line} (holds : Holds s lines) :
    dropOrderMark s = s := by
  rw [dropOrderMark.eq_def]
  split
  next rest => cases holds _ (Nat.lt_succ_self _)
  next => rfl

/-- A document is written, and its text is read as its table. -/
theorem exists_write? {d : Document} (readable : d.IsReadable) :
    ∃ text, d.write? = some text ∧ read? text = some (.table .header d.members) := by
  obtain ⟨text, written, holds⟩ := exists_write?_holds readable
  -- the keys of the document come before all headers
  have sections : sectionsOf d.lines =
      (keyPairs d.keys, d.sections.map fun s => ⟨.table [s.1], keyPairs s.2⟩) := by
    rw [Document.lines, sectionsOf_keyLines, sectionsOf_sectionLines, List.append_nil]
  have distinct := readable.distinct
  have keys : insertAll? (keyPairs d.keys) [] = some (keyMembers d.keys) :=
    insertAll?_keyPairs [] readable.keys.distinct
  have placed := foldlM_place? (keyMembers d.keys) (by rwa [keyMembers, List.map_map]) fun s mem =>
    (readable.sections s mem).distinct
  refine ⟨text, written, Option.bind_eq_some_iff.2 ⟨d.lines, ?_, ?_⟩⟩
  · rw [dropOrderMark_of_holds holds]
    exact holds _ (Nat.lt_succ_self _)
  · rw [sections]
    exact Option.bind_eq_some_iff.2 ⟨_, keys, Option.bind_eq_some_iff.2 ⟨_, placed, rfl⟩⟩

/-! ## Parts left out -/

/-- A document without some of its keys and sections.  A key of a section is given by both names. -/
def Document.without (omitted : List String → Bool) (d : Document) : Document where
  keys := d.keys.filter fun key => !omitted [key.1]
  sections := (d.sections.filter fun s => !omitted [s.1]).map fun s =>
    (s.1, s.2.filter fun key => !omitted [s.1, key.1])

/-- Nothing is left out if nothing is omitted. -/
@[simp] theorem Document.without_none (d : Document) : d.without (fun _ => false) = d := by
  simp [Document.without]

/-- Some of the keys can be read if all of them can. -/
theorem AreReadable.filter {keys : List (String × Setting)} (readable : AreReadable keys)
    (kept : String × Setting → Bool) : AreReadable (keys.filter kept) where
  bare key mem := readable.bare key (List.mem_of_mem_filter mem)
  readable key mem := readable.readable key (List.mem_of_mem_filter mem)
  distinct := readable.distinct.sublist (List.filter_sublist.map Prod.fst)

/-- What is left of a document can be read if the document can. -/
theorem Document.IsReadable.without {d : Document} (readable : d.IsReadable)
    (omitted : List String → Bool) : (d.without omitted).IsReadable where
  keys := readable.keys.filter _
  bare := List.forall_mem_map.2 fun s mem => readable.bare s (List.mem_of_mem_filter mem)
  sections := List.forall_mem_map.2 fun s mem =>
    (readable.sections s (List.mem_of_mem_filter mem)).filter _
  distinct := by
    rw [Document.without, List.map_map]
    exact readable.distinct.sublist (.append (List.filter_sublist.map Prod.fst)
      (List.filter_sublist.map Prod.fst))

/-- What is left out is not found, and what stays is. -/
theorem lookup_map_filter {α : Type} (omitted : String → Bool) (value : String × α → Toml)
    (name : String) (entries : List (String × α)) :
    ((entries.filter fun entry => !omitted entry.1).map fun entry =>
        (entry.1, value entry)).lookup name =
      if omitted name then none
      else (entries.map fun entry => (entry.1, value entry)).lookup name := by
  induction entries with
  | nil => exact (ite_self none).symm
  | cons entry entries ih =>
    rw [List.filter_cons, List.map_cons, List.lookup_cons]
    cases goes : omitted entry.1 with
    | true =>
      rw [Bool.not_true, if_neg Bool.false_ne_true, ih]
      split
      next => rfl
      next stays =>
        -- The omitted entry has another name, so the lookup would have passed it.
        have other : name ≠ entry.1 := by
          rintro rfl
          exact stays goes
        rw [beq_false_of_ne other]
    | false =>
      rw [Bool.not_false, if_pos rfl, List.map_cons, List.lookup_cons, ih]
      split
      next same => rw [beq_iff_eq.1 same, goes, if_neg Bool.false_ne_true]
      next => rfl

/-- A key that is left out is not found, and the others are found as before. -/
theorem lookup_keyMembers_filter (omitted : String → Bool) (name : String)
    (keys : List (String × Setting)) :
    (keyMembers (keys.filter fun key => !omitted key.1)).lookup name =
      if omitted name then none else (keyMembers keys).lookup name :=
  lookup_map_filter omitted (fun key : String × Setting => key.2.toToml) name keys

/-- The table of a section, without the keys that are left out. -/
def sectionWithout (omitted : List String → Bool) (s : String × List (String × Setting)) : Toml :=
  .table .header (keyMembers (s.2.filter fun key => !omitted [s.1, key.1]))

/-- In what is left of a document a key or a section is found unless it is left out. -/
theorem Document.lookup_without (d : Document) (omitted : List String → Bool) (name : String) :
    (d.without omitted).members.lookup name =
      if omitted [name] then none
      else (keyMembers d.keys ++ d.sections.map fun s =>
        (s.1, sectionWithout omitted s)).lookup name := by
  have keys := lookup_keyMembers_filter (fun name => omitted [name]) name d.keys
  have sections :=
    lookup_map_filter (fun name => omitted [name]) (sectionWithout omitted) name d.sections
  rw [members, without, List.map_map, List.lookup_append, List.lookup_append, keys]
  refine (congrArg (Option.or _) sections).trans ?_
  split
  next => rfl
  next => rfl

end Ensemble.Toml
