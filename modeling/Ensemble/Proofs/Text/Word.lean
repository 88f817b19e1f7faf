import Ensemble.Proofs.Text
import Mathlib.Data.List.DropRight

/-!
# Words and lines

Words and lines are the pieces of a text between separators, and one equation carries both: a text
falls apart at every separator (`pieces_append_cons`).  So blanks before a word and after it do not
matter to it, and lines are found separately on either side of a line feed.

The first word of a text, without the characters of a class at its end, is also said without
splitting the text into words (`FirstWord`).
-/

namespace Ensemble.Text

variable {p : Char → Bool} {c : Char} {s t token word : List Char}

/-! ## Pieces -/

/-- A text has a piece, even if nothing stands in it. -/
theorem pieces_ne_nil (p : Char → Bool) (s : List Char) : pieces p s ≠ [] := by
  cases s with
  | nil => exact List.cons_ne_nil _ _
  | cons c s =>
    rw [pieces]
    split
    next => exact List.cons_ne_nil _ _
    next => split <;> exact List.cons_ne_nil _ _

/-- Only where nothing stands is an empty piece all there is. -/
theorem eq_nil_of_pieces (same : pieces p s = [[]]) : s = [] := by
  cases s with
  | nil => rfl
  | cons c s =>
    rw [pieces] at same
    split at same
    next => exact absurd (List.cons.inj same).2 (pieces_ne_nil p s)
    next => split at same <;> cases same

/-- Characters that do not separate are put in front of the first piece. -/
theorem pieces_append_of_plain (plain : ∀ c ∈ s, p c = false) (t : List Char) :
    ∃ piece more, pieces p t = piece :: more ∧ pieces p (s ++ t) = (s ++ piece) :: more := by
  obtain ⟨piece, more, same⟩ := List.exists_cons_of_ne_nil (pieces_ne_nil p t)
  refine ⟨piece, more, same, ?_⟩
  induction s with
  | nil => exact same
  | cons c s ih =>
    simp only [List.forall_mem_cons] at plain
    rw [List.cons_append, pieces, if_neg (Bool.eq_false_iff.1 plain.1), ih plain.2]
    rfl

/-- A text falls apart at a separator. -/
theorem pieces_append_cons (separates : p c = true) (s t : List Char) :
    pieces p (s ++ c :: t) = pieces p s ++ pieces p t := by
  induction s with
  | nil =>
    rw [List.nil_append, pieces.eq_2, if_pos separates]
    rfl
  | cons d s ih =>
    rw [List.cons_append, pieces, pieces]
    split
    next => rw [ih, List.cons_append]
    next =>
      obtain ⟨piece, more, same⟩ := List.exists_cons_of_ne_nil (pieces_ne_nil p s)
      rw [ih, same]
      rfl

/-- A text without a separator is one piece. -/
theorem pieces_of_plain (plain : ∀ c ∈ s, p c = false) : pieces p s = [s] := by
  obtain ⟨piece, more, same, longer⟩ := pieces_append_of_plain plain []
  obtain ⟨rfl, rfl⟩ := List.cons.inj same
  rwa [List.append_nil] at longer

/-- Where two texts meet, the last piece of the first and the first piece of the second are one. -/
theorem exists_pieces_append (s t : List Char) : ∃ front last first more,
    pieces p s = front ++ [last] ∧ pieces p t = first :: more ∧
      pieces p (s ++ t) = front ++ (last ++ first) :: more := by
  induction s with
  | nil =>
    obtain ⟨first, more, same⟩ := List.exists_cons_of_ne_nil (pieces_ne_nil p t)
    exact ⟨[], [], first, more, rfl, same, same⟩
  | cons d s ih =>
    obtain ⟨front, last, first, more, same, next, whole⟩ := ih
    rw [List.cons_append, pieces, pieces, same, whole]
    -- A character that ends a piece starts a new one in front of all the others.
    split
    next => exact ⟨[] :: front, last, first, more, rfl, next, rfl⟩
    next =>
      cases front with
      | nil => exact ⟨[], d :: last, first, more, rfl, next, rfl⟩
      | cons piece front => exact ⟨(d :: piece) :: front, last, first, more, rfl, next, rfl⟩

/-- A character that does not separate is put after the last piece. -/
theorem pieces_concat_of_neg (plain : p c = false) (s : List Char) :
    ∃ front last, pieces p s = front ++ [last] ∧ pieces p (s ++ [c]) = front ++ [last ++ [c]] := by
  obtain ⟨front, last, first, more, same, alone, whole⟩ := exists_pieces_append (p := p) s [c]
  rw [pieces_of_plain (List.forall_mem_singleton.2 plain)] at alone
  obtain ⟨rfl, rfl⟩ := List.cons.inj alone
  exact ⟨front, last, same, whole⟩

/-! ## Lines -/

/-- A carriage return at the end of a line is a blank. -/
theorem trim_dropReturn (line : List Char) : trim (dropReturn line) = trim line := by
  cases line using List.reverseRecOn with
  | nil => rfl
  | append_singleton line c =>
    rw [dropReturn, List.reverse_append, List.reverse_singleton, List.singleton_append]
    split
    next rest same =>
      obtain ⟨rfl, rfl⟩ := List.cons.inj same
      rw [List.reverse_reverse]
      exact (trim_append_right line (List.forall_mem_singleton.2 rfl)).symm
    next => rfl

/-- What is looked for on each line is found on the pieces between line feeds, if it is not found
where nothing stands and a carriage return does not matter to it. -/
theorem findSome?_lines {α : Type} {f : List Char → Option α} (nothing : f [] = none)
    (same : ∀ line, f (dropReturn line) = f line) (s : List Char) :
    (lines s).findSome? f = (pieces (· == '\n') s).findSome? f := by
  rw [lines]
  generalize pieces (· == '\n') s = found
  induction found with
  | nil => rfl
  | cons line more ih =>
    -- The last piece is a line only if it is not empty.
    cases more with
    | nil =>
      rw [endLines]
      split
      next none => rw [List.isEmpty_iff.1 none, List.findSome?_cons, nothing]
      next => rfl
    | cons next more =>
      rw [endLines, List.findSome?_cons, List.findSome?_cons, same, ih]
      exact List.cons_ne_nil _ _

/-- A line of a class is found on the pieces between line feeds, if the empty text is not of the
class and a carriage return does not matter to it. -/
theorem any_lines {p : List Char → Bool} (nothing : p [] = false)
    (same : ∀ line, p (dropReturn line) = p line) (s : List Char) :
    (lines s).any p = (pieces (· == '\n') s).any p := by
  let found (line : List Char) : Option Unit := if p line then some () else none
  have isSome : (fun line => (found line).isSome) = p := by
    funext line
    cases h : p line <;> simp [found, h]
  have all := findSome?_lines (f := found) (if_neg (Bool.eq_false_iff.1 nothing))
    (fun line => by simp only [found, same]) s
  rw [← isSome, ← List.isSome_findSome?, ← List.isSome_findSome?, all]

/-! ## Words -/

/-- A text falls apart into words at a blank. -/
theorem words_append_cons (blank : isBlank c = true) (s t : List Char) :
    words (s ++ c :: t) = words s ++ words t := by
  rw [words, pieces_append_cons blank, List.filter_append]
  rfl

/-- Blanks before a text do not matter to its words. -/
theorem words_append_left (blank : ∀ c ∈ s, isBlank c = true) (t : List Char) :
    words (s ++ t) = words t := by
  induction s with
  | nil => rfl
  | cons c s ih =>
    simp only [List.forall_mem_cons] at blank
    rw [List.cons_append]
    exact (words_append_cons blank.1 [] (s ++ t)).trans (ih blank.2)

/-- A text that starts with characters that are not blank, and goes on with a blank or ends there,
has these for its first word. -/
theorem words_append_of_solid (some : s ≠ []) (solid : ∀ c ∈ s, isBlank c = false)
    (stops : ∀ c ∈ t.head?, isBlank c = true) : (words (s ++ t)).head? = s := by
  have alone : words s = [s] := by
    rw [words, pieces_of_plain solid, List.filter_singleton]
    cases s with
    | nil => exact absurd rfl some
    | cons => rfl
  cases t with
  | nil => rw [List.append_nil, alone]; rfl
  | cons c t => rw [words_append_cons (stops c rfl), alone]; rfl

/-- A text starts with a run, perhaps of no characters, that is not blank and that a blank or the
end follows. -/
theorem exists_run (s : List Char) : ∃ run rest, s = run ++ rest ∧
    (∀ c ∈ run, isBlank c = false) ∧ ∀ c ∈ rest.head?, isBlank c = true := by
  refine ⟨_, _, (List.takeWhile_append_dropWhile (p := fun c => !isBlank c)).symm, ?_, ?_⟩
  · intro c mem
    rw [← Bool.not_eq_true']
    exact List.mem_takeWhile_imp (p := fun c => !isBlank c) mem
  · intro c start
    have stopped := List.head?_dropWhile_not (fun c => !isBlank c) s
    rw [Option.mem_def.1 start] at stopped
    simpa using stopped

/-- The first word of a text stands after blanks, and up to a blank or the end. -/
theorem head?_words_eq_some_iff :
    (words s).head? = some token ↔ ∃ blanks rest, s = blanks ++ (token ++ rest) ∧
      (∀ c ∈ blanks, isBlank c = true) ∧ token ≠ [] ∧ (∀ c ∈ token, isBlank c = false) ∧
      ∀ c ∈ rest.head?, isBlank c = true := by
  constructor
  · intro first
    induction s with
    | nil => cases first
    | cons c s ih =>
      -- A blank goes in front of the word found in the rest; a solid character begins it.
      cases blank : isBlank c with
      | true =>
        have passed : words (c :: s) = words s := words_append_cons blank [] s
        rw [passed] at first
        obtain ⟨blanks, rest, same, all, more⟩ := ih first
        exact ⟨c :: blanks, rest, congrArg (c :: ·) same, List.forall_mem_cons.2 ⟨blank, all⟩, more⟩
      | false =>
        obtain ⟨run, rest, same, solid, stops⟩ := exists_run (c :: s)
        have some : run ≠ [] := by
          rintro rfl
          obtain rfl : c :: s = rest := same
          cases blank.symm.trans (stops c rfl)
        rw [same, words_append_of_solid some solid stops] at first
        obtain rfl := Option.some.inj first
        exact ⟨[], rest, same, nofun, some, solid, stops⟩
  · rintro ⟨blanks, rest, rfl, blank, some, solid, stops⟩
    rw [words_append_left blank, words_append_of_solid some solid stops]

/-! ## Taking off what a text ends in -/

/-- What is left of a text when the characters of a class are taken off its end. -/
theorem trimEndWhere_eq_iff : trimEndWhere p s = word ↔ ∃ endings, s = word ++ endings ∧
    (∀ c ∈ endings, p c = true) ∧ ∀ c ∈ word.getLast?, p c = false := by
  constructor
  · rintro rfl
    refine ⟨s.rtakeWhile p, List.rdropWhile_append_rtakeWhile.symm,
      fun c mem => List.mem_rtakeWhile_imp mem, fun c mem => ?_⟩
    obtain ⟨some, rfl⟩ := List.mem_getLast?_eq_getLast mem
    exact Bool.eq_false_iff.2 (List.rdropWhile_last_not p s some)
  · rintro ⟨endings, rfl, all, last⟩
    rw [trimEndWhere_append word all, trimEndWhere_eq_self last]

/-- Trimming takes blanks off both ends and nothing else. -/
theorem exists_trim (s : List Char) : ∃ before after, s = before ++ (trim s ++ after) ∧
    (∀ c ∈ before, isBlank c = true) ∧ ∀ c ∈ after, isBlank c = true := by
  obtain ⟨after, same, blank, -⟩ := trimEndWhere_eq_iff.1 (rfl : trimEnd (trimStart s) = trim s)
  refine ⟨s.takeWhile isBlank, after, ?_, fun c mem => List.mem_takeWhile_imp mem, blank⟩
  have whole : trimStart s = trim s ++ after := same
  rw [← whole, trimStart_append]

theorem trim_trimEnd (s : List Char) : trim (trimEnd s) = trim s := by
  obtain ⟨after, same, blank, -⟩ := trimEndWhere_eq_iff.1 (rfl : trimEnd s = trimEnd s)
  conv => rhs; rw [same]
  exact (trim_append_right _ blank).symm

/-- A trimmed text does not start with a blank. -/
theorem head?_trim (s : List Char) : ∀ c ∈ (trim s).head?, isBlank c = false := by
  intro c start
  obtain ⟨after, same, -⟩ := trimEndWhere_eq_iff.1 (rfl : trimEnd (trimStart s) = trim s)
  have stopped := List.head?_dropWhile_not isBlank s
  have whole : s.dropWhile isBlank = trim s ++ after := same
  rw [whole, List.head?_append, Option.mem_def.1 start] at stopped
  simpa using stopped

/-- The first word of a text is `word` with characters of a class after it, where `word` itself does
not end in one of them. -/
def FirstWord (p : Char → Bool) (s word : List Char) : Prop :=
  ∃ blanks endings rest, s = blanks ++ (word ++ endings ++ rest) ∧
    (∀ c ∈ blanks, isBlank c = true) ∧ word ++ endings ≠ [] ∧
    (∀ c ∈ word ++ endings, isBlank c = false) ∧ (∀ c ∈ rest.head?, isBlank c = true) ∧
    (∀ c ∈ endings, p c = true) ∧ ∀ c ∈ word.getLast?, p c = false

theorem firstWord_iff : FirstWord p s word ↔
    ∃ token, (words s).head? = some token ∧ trimEndWhere p token = word := by
  simp only [head?_words_eq_some_iff, trimEndWhere_eq_iff]
  constructor
  · rintro ⟨blanks, endings, rest, same, blank, some, solid, stops, all, last⟩
    exact ⟨_, ⟨blanks, rest, same, blank, some, solid, stops⟩, endings, rfl, all, last⟩
  · rintro ⟨token, ⟨blanks, rest, same, blank, some, solid, stops⟩, endings, rfl, all, last⟩
    exact ⟨blanks, endings, rest, same, blank, some, solid, stops, all, last⟩

end Ensemble.Text
