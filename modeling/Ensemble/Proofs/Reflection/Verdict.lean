import Ensemble.Proofs.Number
import Ensemble.Proofs.Text.Byte
import Ensemble.Proofs.Text.Word
import Ensemble.Reflection.Verdict
import Mathlib.Data.Option.Basic

/-!
# What a verdict decides

An answer of an evaluator is searched for a first word, a mark at its start, and a line with a
score.  Here it is said without searching what an answer must look like for each of them
(`Text.FirstWord`, `StatesScore`, `FirstScore`), and shown that these decide the verdict.

A text is read by characters, while its marks may as well be found by their bytes.  `readAtBytes?`
reads a verdict so, and has no answer if it ever cuts a text past its end or in the middle of a
character.  It never does, and gives the same verdicts.
-/

namespace Ensemble.Reflection

open Text (FirstWord byteLength cutAtByte?)

variable {line s t : List Char} {x : Binary64}

/-! ## Scores -/

/-- A score that is kept is a share of one. -/
theorem clampScore_share (score : Binary64) :
    Binary64.zero.le (clampScore score) = true ∧ (clampScore score).le .one = true := by
  rw [clampScore]
  split
  next => exact Binary64.zero_share
  next low =>
    simp only [Bool.or_eq_true, beq_iff_eq, not_or, Bool.not_eq_true] at low
    split
    next => exact Binary64.one_share
    next high =>
      exact ⟨Binary64.le_of_not_lt low.1 nofun low.2,
        Binary64.le_of_not_lt nofun low.1 (Bool.eq_false_iff.2 high)⟩

/-- A line that reads as a score: after blanks it starts with the mark, in any letter case, and the
first word after it, without commas and semicolons at its end, is a number. -/
def StatesScore (line : List Char) (x : Binary64) : Prop :=
  ∃ mark rest number, Text.trim line = mark ++ rest ∧
    Text.sameIgnoringAsciiCase mark scoreMark = true ∧ FirstWord isScoreEnding rest number ∧
    Binary64.ofLiteral? number = some x

/-- The first of these lines that reads as a score states `x`. -/
def FirstScore (lines : List (List Char)) (x : Binary64) : Prop :=
  ∃ before line after, lines = before ++ line :: after ∧ StatesScore line x ∧
    ∀ l ∈ before, ∀ y, ¬ StatesScore l y

/-- The score on a line is the one that it states. -/
theorem lineScore?_eq_some_iff :
    lineScore? line = some x ↔ ∃ y, StatesScore line y ∧ clampScore y = x := by
  simp only [lineScore?, bind, Option.bind_eq_some_iff, Option.guard_eq_some']
  constructor
  · rintro ⟨-, marked, token, first, y, read, clamped⟩
    exact ⟨y, ⟨_, _, _, (List.take_append_drop scoreMark.length (Text.trim line)).symm, marked,
      Text.firstWord_iff.2 ⟨token, first, rfl⟩, read⟩, Option.some.inj clamped⟩
  · rintro ⟨y, ⟨mark, rest, number, parts, marked, first, read⟩, rfl⟩
    obtain ⟨token, head, rfl⟩ := Text.firstWord_iff.1 first
    rw [parts, ← Text.length_of_sameIgnoringAsciiCase marked, List.take_left, List.drop_left]
    exact ⟨(), marked, token, head, y, read, rfl⟩

/-- A line has no score exactly if it states none. -/
theorem lineScore?_eq_none_iff : lineScore? line = none ↔ ∀ y, ¬ StatesScore line y := by
  rw [Option.eq_none_iff_forall_ne_some]
  simp only [ne_eq, lineScore?_eq_some_iff]
  constructor
  · intro none y states
    exact none _ ⟨y, states, rfl⟩
  · rintro none _ ⟨y, states, -⟩
    exact none y states

/-- The score that is found is the first one stated, clamped. -/
theorem findScore?_eq_some_iff :
    findScore? s = some x ↔ ∃ y, FirstScore (Text.lines s) y ∧ clampScore y = x := by
  simp only [findScore?, List.findSome?_eq_some_iff, lineScore?_eq_some_iff,
    lineScore?_eq_none_iff, FirstScore]
  constructor
  · rintro ⟨before, line, after, same, ⟨y, states, clamped⟩, none⟩
    exact ⟨y, ⟨before, line, after, same, states, none⟩, clamped⟩
  · rintro ⟨y, ⟨before, line, after, same, states, none⟩, clamped⟩
    exact ⟨before, line, after, same, ⟨y, states, clamped⟩, none⟩

/-- No score is found if no line states one. -/
theorem findScore?_eq_none_iff :
    findScore? s = none ↔ ∀ line ∈ Text.lines s, ∀ y, ¬ StatesScore line y := by
  simp only [findScore?, List.findSome?_eq_none_iff, lineScore?_eq_none_iff]

/-! ## Where scores are looked for -/

/-- Blanks at the ends of a line do not matter to its score. -/
theorem lineScore?_congr (same : Text.trim s = Text.trim t) : lineScore? s = lineScore? t := by
  rw [lineScore?, lineScore?, same]

/-- An empty line states no score. -/
theorem lineScore?_nil : lineScore? [] = none := rfl

/-- The first score in a text is the first one on its pieces between line feeds. -/
theorem findScore?_eq (s : List Char) :
    findScore? s = (Text.pieces (· == '\n') s).findSome? lineScore? :=
  Text.findSome?_lines lineScore?_nil (fun line => lineScore?_congr (Text.trim_dropReturn line)) s

/-- Scores are looked for on one side of a line feed and then on the other. -/
theorem findScore?_append_newline (s t : List Char) :
    findScore? (s ++ '\n' :: t) = (findScore? s).or (findScore? t) := by
  have apart : Text.pieces (· == '\n') (s ++ '\n' :: t) =
      Text.pieces (· == '\n') s ++ Text.pieces (· == '\n') t := Text.pieces_append_cons rfl s t
  rw [findScore?_eq, apart, List.findSome?_append, ← findScore?_eq, ← findScore?_eq]

/-- Blanks before a text do not matter to the first score in it. -/
theorem findScore?_append_left (blank : ∀ c ∈ s, Text.isBlank c = true) (t : List Char) :
    findScore? (s ++ t) = findScore? t := by
  induction s with
  | nil => rfl
  | cons c s ih =>
    simp only [List.forall_mem_cons] at blank
    rw [← ih blank.2, List.cons_append]
    -- a line feed ends an empty line, and another blank starts the line that follows
    cases feed : c == '\n' with
    | true =>
      obtain rfl := beq_iff_eq.1 feed
      exact findScore?_append_newline [] (s ++ t)
    | false =>
      obtain ⟨piece, more, same, longer⟩ :=
        Text.pieces_append_of_plain (p := (· == '\n')) (List.forall_mem_singleton.2 feed) (s ++ t)
      rw [List.singleton_append, List.singleton_append] at longer
      have passed : lineScore? (c :: piece) = lineScore? piece :=
        lineScore?_congr (Text.trim_append_left (List.forall_mem_singleton.2 blank.1) piece)
      rw [findScore?_eq, findScore?_eq, same, longer, List.findSome?_cons, List.findSome?_cons,
        passed]

/-- Blanks after a text do not matter to the first score in it. -/
theorem findScore?_append_right (s : List Char) (blank : ∀ c ∈ t, Text.isBlank c = true) :
    findScore? (s ++ t) = findScore? s := by
  induction t using List.reverseRecOn with
  | nil => rw [List.append_nil]
  | append_singleton t c ih =>
    simp only [List.forall_mem_append, List.forall_mem_singleton] at blank
    rw [← ih blank.1, ← List.append_assoc]
    cases feed : c == '\n' with
    | true =>
      obtain rfl := beq_iff_eq.1 feed
      rw [findScore?_append_newline]
      exact Option.or_none
    | false =>
      obtain ⟨front, last, same, longer⟩ :=
        Text.pieces_concat_of_neg (p := (· == '\n')) feed (s ++ t)
      have passed : lineScore? (last ++ [c]) = lineScore? last :=
        lineScore?_congr (Text.trim_append_right last (List.forall_mem_singleton.2 blank.2))
      rw [findScore?_eq, findScore?_eq, same, longer, List.findSome?_append,
        List.findSome?_append, List.findSome?_singleton, List.findSome?_singleton, passed]

/-- Trimming does not matter to the first score in a text. -/
theorem findScore?_trim (s : List Char) : findScore? (Text.trim s) = findScore? s := by
  obtain ⟨before, after, same, blankBefore, blankAfter⟩ := Text.exists_trim s
  conv => rhs; rw [same]
  rw [findScore?_append_left blankBefore, findScore?_append_right _ blankAfter]

/-! ## Reading by bytes -/

/-- The text after a number of bytes; none past its end and in the middle of a character. -/
def fromByte? (bytes : Nat) (s : List Char) : Option (List Char) :=
  (cutAtByte? bytes s).map Prod.snd

/-- The score on a line, by bytes.  A line that is too short for the mark, or has a character across
its end, has no score.  The outer answer is missing if what follows the mark cannot be cut off. -/
def lineScoreAtBytes? (line : List Char) : Option (Option Binary64) :=
  let line := Text.trim line
  match cutAtByte? (byteLength scoreMark) line with
  | none => some none
  | some (start, _) =>
    if Text.sameIgnoringAsciiCase start scoreMark then
      (fromByte? (byteLength scoreMark) line).map fun rest => do
        let word ← (Text.words rest).head?
        let number ← Binary64.ofLiteral? (Text.trimEndWhere isScoreEnding word)
        return clampScore number
    else some none

/-- The first score on some lines, by bytes. -/
def firstScoreAtBytes? : List (List Char) → Option (Option Binary64)
  | [] => some none
  | line :: more => do
    match ← lineScoreAtBytes? line with
    | some score => return some score
    | none => firstScoreAtBytes? more

/-- The rationale in a text, or the whole text if it has none, by bytes.  The mark is found in the
text in upper case, and its place is used in the text itself. -/
def rationaleAtBytes? (s : List Char) : Option (List Char) :=
  match Text.cut? rationaleMark (Text.asciiUpper s) with
  | none => some s
  | some (before, _) =>
    (fromByte? (byteLength before + byteLength rationaleMark) s).map Text.trim

/-- Reads the answer of an evaluator by bytes. -/
def readAtBytes? (text : String) (passScore : Binary64) : Option Evaluation := do
  let text := Text.trim text.toList
  let score? ← firstScoreAtBytes? (Text.lines text)
  if startsWithPass text then
    let rest ← fromByte? (byteLength passWord) text
    let rationale ← rationaleAtBytes? (Text.trim (Text.trimStartWhere isPassEnding rest))
    return ⟨score?.getD .one, true, String.ofList rationale⟩
  else if failMark.isPrefixOf text then
    let rest ← fromByte? (byteLength failMark) text
    let rationale ← rationaleAtBytes? (Text.trim rest)
    return ⟨score?.getD .zero, false, String.ofList rationale⟩
  else
    match score? with
    | some score =>
      let rationale ← rationaleAtBytes? text
      return ⟨score, passScore.le score, String.ofList rationale⟩
    | none => return ⟨.zero, false, String.ofList text⟩

/-- Cutting off as many bytes as a part has leaves what follows it. -/
theorem fromByte?_byteLength (s t : List Char) : fromByte? (byteLength s) (s ++ t) = some t := by
  rw [fromByte?, Text.cutAtByte?_byteLength]
  rfl

/-- What a text starts with can be cut off by its bytes. -/
theorem fromByte?_of_start (starts : s <+: t) :
    fromByte? (byteLength s) t = some (t.drop s.length) := by
  obtain ⟨rest, rfl⟩ := starts
  rw [fromByte?_byteLength, List.drop_left]

/-- The mark before a score is found by its bytes where it is found by its characters. -/
theorem cutAtByte?_scoreMark
    (marked : Text.sameIgnoringAsciiCase (line.take scoreMark.length) scoreMark = true) :
    cutAtByte? (byteLength scoreMark) line =
      some (line.take scoreMark.length, line.drop scoreMark.length) :=
  Text.cutAtByte?_eq_some_iff.2 ⟨(List.take_append_drop scoreMark.length line).symm,
    Text.byteLength_of_sameIgnoringAsciiCase marked⟩

/-- Reading a line by bytes never fails, and finds what reading it by characters does. -/
theorem lineScoreAtBytes?_eq (line : List Char) :
    lineScoreAtBytes? line = some (lineScore? line) := by
  rw [lineScoreAtBytes?, lineScore?]
  generalize Text.trim line = line
  by_cases marked : Text.sameIgnoringAsciiCase (line.take scoreMark.length) scoreMark = true
  · simp only [fromByte?, cutAtByte?_scoreMark marked, if_pos marked]
    simp [marked, guard]
  · -- neither reading goes on
    have apart : ∀ parts, cutAtByte? (byteLength scoreMark) line = some parts →
        Text.sameIgnoringAsciiCase parts.1 scoreMark = false := by
      rintro ⟨start, rest⟩ cut
      obtain ⟨rfl, -⟩ := Text.cutAtByte?_eq_some_iff.1 cut
      rw [← Bool.not_eq_true]
      intro same
      rw [← Text.length_of_sameIgnoringAsciiCase same, List.take_left] at marked
      exact marked same
    have none : guard (Text.sameIgnoringAsciiCase (line.take scoreMark.length) scoreMark = true) =
        (failure : Option Unit) := if_neg marked
    rw [none]
    cases found : cutAtByte? (byteLength scoreMark) line with
    | none => rfl
    | some parts => simp only [apart parts found]; rfl

/-- The mark would end inside a character here. -/
example : lineScoreAtBytes? "SCOREé 1".toList = some none := by decide +kernel

/-- Reading lines by bytes never fails, and finds what reading them by characters does. -/
theorem firstScoreAtBytes?_eq (lines : List (List Char)) :
    firstScoreAtBytes? lines = some (lines.findSome? lineScore?) := by
  induction lines with
  | nil => rfl
  | cons line more ih =>
    rw [firstScoreAtBytes?, lineScoreAtBytes?_eq, List.findSome?_cons]
    cases lineScore? line with
    | none => exact ih
    | some => rfl

/-- The mark has its place in the text in upper case, where all characters take as many bytes. -/
theorem rationaleAtBytes?_eq (s : List Char) :
    rationaleAtBytes? s = some ((findRationale? s).getD s) := by
  rw [rationaleAtBytes?, findRationale?, Text.after?_eq_cut?]
  cases found : Text.cut? rationaleMark (Text.asciiUpper s) with
  | none => rfl
  | some parts =>
    obtain ⟨before, after⟩ := parts
    -- the parts of the text itself are as long, in characters and in bytes
    obtain ⟨start, rest, rfl, upper, later⟩ :=
      List.map_eq_append_iff.1 (Text.append_of_cut? found)
    have bytes : byteLength before + byteLength rationaleMark = byteLength start := by
      rw [← Text.byteLength_append, ← upper]
      exact Text.byteLength_asciiUpper start
    have chars : (start ++ rest).length - after.length = start.length := by
      rw [← later, List.length_map, List.length_append, Nat.add_sub_cancel]
    simp only [bytes, fromByte?_byteLength, Option.map_some, Option.getD_some, chars,
      List.drop_left]

/-- A text starts with the word for passing if that is its first word. -/
theorem startsWithPass_iff : startsWithPass s = true ↔ FirstWord isPassEnding s passWord := by
  rw [startsWithPass, Text.firstWord_iff]
  cases Text.words s with
  | nil => simp
  | cons => simp

/-- A trimmed text whose first word passes starts with the word of a passed evaluation. -/
theorem starts_with_passWord (starts : ∀ c ∈ s.head?, Text.isBlank c = false)
    (passes : startsWithPass s = true) : passWord <+: s := by
  obtain ⟨blanks, endings, rest, rfl, blank, -⟩ := startsWithPass_iff.1 passes
  cases blanks with
  | nil =>
    rw [List.nil_append, List.append_assoc]
    exact List.prefix_append _ _
  | cons c blanks =>
    have not : Text.isBlank c = false := starts c rfl
    cases not.symm.trans (blank c List.mem_cons_self)

/-- Reading a verdict by bytes never fails, and gives the verdict. -/
theorem readAtBytes?_eq (text : String) (passScore : Binary64) :
    readAtBytes? text passScore = some (readVerdict text passScore) := by
  have starts := Text.head?_trim text.toList
  rw [readAtBytes?, readVerdict]
  generalize Text.trim text.toList = trimmed at starts
  simp only [firstScoreAtBytes?_eq, rationaleAtBytes?_eq, Option.bind_eq_bind, Option.bind_some]
  -- the texts after the marks are cut off by bytes, at the end of a character
  cases passes : startsWithPass trimmed with
  | true =>
    simp only [if_true, fromByte?_of_start (starts_with_passWord starts passes), Option.bind_some]
    rfl
  | false =>
    simp only [Bool.false_eq_true, if_false]
    split
    next fails =>
      simp only [fromByte?_of_start (List.isPrefixOf_iff_prefix.1 fails), Option.bind_some]
      rfl
    next =>
      rw [findScore?]
      cases (Text.lines trimmed).findSome? lineScore? <;> rfl

/-! ## Verdicts -/

/-- The score that is kept from a text is a share of one. -/
theorem findScore?_share (found : findScore? s = some x) :
    Binary64.zero.le x = true ∧ x.le .one = true := by
  obtain ⟨y, -, rfl⟩ := findScore?_eq_some_iff.1 found
  exact clampScore_share y

/-- The score of a verdict lies between zero and one. -/
theorem readVerdict_share (text : String) (passScore : Binary64) :
    Binary64.zero.le (readVerdict text passScore).score = true ∧
      (readVerdict text passScore).score.le .one = true := by
  have share := @findScore?_share (Text.trim text.toList)
  rw [readVerdict]
  generalize findScore? (Text.trim text.toList) = score? at share
  cases score? with
  | none =>
    split
    next => exact Binary64.one_share
    next => split <;> exact Binary64.zero_share
  | some score =>
    have kept := share (x := score) rfl
    split
    next => exact kept
    next => split <;> exact kept

/-- Every text has a verdict, and no cut of the text that it takes fails.  The score of the verdict
is a share of one.  A text passes if its first word says so, fails if it starts with the mark of a
failed evaluation, and otherwise passes if the first score on its lines reaches the passing score.
A text with none of these fails with score zero, and is itself the rationale. -/
theorem verdict_decided (text : String) (passScore : Binary64) :
    let trimmed := Text.trim text.toList
    let verdict := readVerdict text passScore
    readAtBytes? text passScore = some verdict ∧
      (verdict.score ≠ .nan ∧ Binary64.zero.le verdict.score = true ∧
        verdict.score.le .one = true) ∧
      (FirstWord isPassEnding trimmed passWord → verdict.passed = true) ∧
      (¬ FirstWord isPassEnding trimmed passWord → failMark <+: trimmed →
        verdict.passed = false) ∧
      (¬ FirstWord isPassEnding trimmed passWord → ¬ failMark <+: trimmed →
        (verdict.passed = true ↔
          ∃ x, FirstScore (Text.lines text.toList) x ∧ passScore.le (clampScore x) = true) ∧
        ((∀ line ∈ Text.lines text.toList, ∀ x, ¬ StatesScore line x) →
          verdict = ⟨.zero, false, Text.trimmed text⟩)) := by
  intro trimmed verdict
  obtain ⟨low, high⟩ := readVerdict_share text passScore
  refine ⟨readAtBytes?_eq text passScore, ⟨?_, low, high⟩, ?_, ?_, ?_⟩
  · intro undefined
    rw [undefined] at high
    cases high
  · intro passes
    show (readVerdict text passScore).passed = true
    rw [readVerdict, if_pos (startsWithPass_iff.2 passes)]
  · intro other fails
    show (readVerdict text passScore).passed = false
    rw [readVerdict, if_neg (mt startsWithPass_iff.1 other),
      if_pos (List.isPrefixOf_iff_prefix.2 fails)]
  · intro other unmarked
    have scored : verdict = match findScore? text.toList with
        | some score => ⟨score, passScore.le score, rationaleOf trimmed⟩
        | none => ⟨.zero, false, Text.trimmed text⟩ := by
      show readVerdict text passScore = _
      rw [readVerdict, if_neg (mt startsWithPass_iff.1 other),
        if_neg (mt List.isPrefixOf_iff_prefix.1 unmarked), findScore?_trim]
      rfl
    rw [scored]
    constructor
    · cases found : findScore? text.toList with
      | none =>
        refine iff_of_false Bool.false_ne_true ?_
        -- a score that is stated would have been found
        rintro ⟨x, first, -⟩
        cases found.symm.trans (findScore?_eq_some_iff.2 ⟨x, first, rfl⟩)
      | some score =>
        constructor
        · intro reached
          obtain ⟨x, first, rfl⟩ := findScore?_eq_some_iff.1 found
          exact ⟨x, first, reached⟩
        · rintro ⟨x, first, reached⟩
          obtain rfl := Option.some.inj
            (found.symm.trans (findScore?_eq_some_iff.2 ⟨x, first, rfl⟩))
          exact reached
    · intro none
      rw [findScore?_eq_none_iff.2 none]

end Ensemble.Reflection
