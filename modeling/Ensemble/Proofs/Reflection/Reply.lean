import Ensemble.Proofs.Number.Literal
import Ensemble.Proofs.Reflection.Verdict

/-!
# Replies in the form that is asked for

An evaluator is asked for a word or for feedback, then for a line with a score, then for a
rationale.  Its reply is read by three searches over the whole text, which know nothing of each
other.  They meet on the intended parts as long as the feedback holds neither the mark of a
rationale nor a line with a score: the score is looked for from the first line on, and the
rationale from what follows the verdict.  The rationale may hold anything, since it stands last.
-/

namespace Ensemble.Reflection

open Text (FirstWord)

variable {s : List Char} {x : Binary64}

/-- A reply of an evaluator. -/
structure Reply where
  /-- What is wrong with work that fails. -/
  feedback : Option String
  number : String
  rationale : String

namespace Reply

variable {r : Reply}

/-- What a reply starts with. -/
def verdict (r : Reply) : String :=
  match r.feedback with
  | none => "PASS"
  | some feedback => "FAIL: " ++ feedback

/-- The line with the score. -/
def scoreLine (r : Reply) : String :=
  "SCORE: " ++ r.number

/-- The text of a reply. -/
def text (r : Reply) : String :=
  r.verdict ++ "\n" ++ r.scoreLine ++ "\nRATIONALE: " ++ r.rationale

theorem toList_text (r : Reply) : r.text.toList =
    r.verdict.toList ++ '\n' ::
      (r.scoreLine.toList ++ '\n' :: (rationaleMark ++ ' ' :: r.rationale.toList)) := by
  have rationale : "\nRATIONALE: ".toList = '\n' :: (rationaleMark ++ [' ']) := rfl
  rw [text]
  simp only [String.toList_append, rationale]
  have newline : "\n".toList = ['\n'] := rfl
  rw [newline]
  simp only [List.append_assoc, List.cons_append, List.nil_append]

/-! ## The score -/

/-- A number is a word. -/
theorem number_solid (number : Binary64.ofLiteral? r.number.toList = some x) :
    ∀ c ∈ r.number.toList, Text.isBlank c = false := fun c mem =>
  Binary64.isBlank_of_isLiteral ((Binary64.isLiteral_of_ofLiteral? number).2 c mem)

/-- The line with the score states it. -/
theorem scoreLine_states (number : Binary64.ofLiteral? r.number.toList = some x) :
    StatesScore r.scoreLine.toList x := by
  obtain ⟨nonempty, literal⟩ := Binary64.isLiteral_of_ofLiteral? number
  have plain : ∀ c ∈ r.number.toList.getLast?, isScoreEnding c = false := fun c last =>
    Binary64.of_isLiteral (P := fun c => isScoreEnding c = false) (by decide +kernel)
      (literal c (List.mem_of_mem_getLast? last))
  have lead : "SCORE: ".toList = scoreMark ++ [' '] := rfl
  have start : Text.trimStart (scoreMark ++ [' ']) = scoreMark ++ [' '] := rfl
  have finish : Text.trimEnd [] = [] := rfl
  have trimmed : Text.trim r.scoreLine.toList = scoreMark ++ ([' '] ++ r.number.toList) := by
    have kept := Text.trim_append_append nonempty (number_solid number) (scoreMark ++ [' ']) []
    rw [List.append_nil, start, finish, List.append_nil] at kept
    rw [scoreLine, String.toList_append, lead, kept, List.append_assoc]
  have first : FirstWord isScoreEnding ([' '] ++ r.number.toList) r.number.toList :=
    ⟨[' '], [], [], by simp, Text.blank_space, by simpa using nonempty,
      by simpa using number_solid number, nofun, nofun, plain⟩
  exact ⟨scoreMark, _, _, trimmed, rfl, first, number⟩

theorem findScore?_scoreLine (number : Binary64.ofLiteral? r.number.toList = some x) :
    findScore? r.scoreLine.toList = some (clampScore x) := by
  have line : ∀ c ∈ r.scoreLine.toList, (c == '\n') = false := by
    rw [scoreLine, String.toList_append]
    refine List.forall_mem_append.2 ⟨Text.none_of_any rfl, fun c mem => ?_⟩
    rw [beq_eq_false_iff_ne]
    rintro rfl
    cases number_solid number _ mem
  rw [findScore?_eq, Text.pieces_of_plain line, List.findSome?_singleton]
  exact lineScore?_eq_some_iff.2 ⟨x, scoreLine_states number, rfl⟩

/-- A line that starts with the mark of a failed evaluation has no score. -/
theorem lineScore?_failMark (s : List Char) : lineScore? (failMark ++ s) = none := by
  rw [lineScore?_eq_none_iff]
  rintro y ⟨mark, rest, number, whole, marked, -⟩
  have kept : Text.trim (failMark ++ s) = failMark ++ Text.trimEnd s :=
    Text.trim_append_append (List.cons_ne_nil _ _) (Text.solid_of_any rfl) [] s
  rw [kept] at whole
  cases mark with
  | nil => cases marked
  | cons c mark =>
    -- the two marks differ in their first letters
    obtain ⟨rfl, -⟩ := List.cons.inj whole
    have lower := (List.cons.inj (beq_iff_eq.1 marked)).1
    exact absurd lower (by decide)

/-- Feedback without a score has none after the mark of a failed evaluation. -/
theorem findScore?_failMark (unscored : findScore? s = none) :
    findScore? (failMark ++ ' ' :: s) = none := by
  have plain : ∀ c ∈ failMark ++ [' '], (c == '\n') = false := Text.none_of_any rfl
  obtain ⟨piece, more, same, longer⟩ := Text.pieces_append_of_plain plain s
  rw [List.append_assoc, List.append_assoc, List.singleton_append, List.singleton_append] at longer
  rw [findScore?_eq, same, List.findSome?_cons] at unscored
  rw [findScore?_eq, longer, List.findSome?_cons, lineScore?_failMark]
  split at unscored
  next => cases unscored
  next => exact unscored

theorem toList_verdict (r : Reply) : r.verdict.toList = match r.feedback with
    | none => passWord
    | some feedback => failMark ++ ' ' :: feedback.toList := by
  have lead : "FAIL: ".toList = failMark ++ [' '] := rfl
  rw [verdict]
  cases r.feedback with
  | none => rfl
  | some feedback =>
    show ("FAIL: " ++ feedback).toList = _
    rw [String.toList_append, lead, List.append_assoc, List.singleton_append]

/-- The first score in a reply is the one on the line with the score. -/
theorem findScore?_text (number : Binary64.ofLiteral? r.number.toList = some x)
    (unscored : ∀ feedback ∈ r.feedback, findScore? feedback.toList = none) :
    findScore? r.text.toList = some (clampScore x) := by
  have none : findScore? r.verdict.toList = none := by
    rw [toList_verdict]
    cases given : r.feedback with
    | none => rfl
    | some feedback => exact findScore?_failMark (unscored feedback given)
  rw [toList_text, findScore?_append_newline, none, Option.none_or, findScore?_append_newline,
    findScore?_scoreLine number, Option.some_or]

/-! ## The rationale -/

/-- The rationale is what follows the first mark, also in a trimmed text. -/
theorem findRationale?_append (unmarked : ¬ rationaleMark <:+: Text.asciiUpper s)
    (t : List Char) :
    findRationale? (Text.trim (s ++ rationaleMark ++ t)) = some (Text.trim t) := by
  have kept : Text.trim (s ++ rationaleMark ++ t) =
      Text.trimStart s ++ rationaleMark ++ Text.trimEnd t :=
    Text.trim_append_append (List.cons_ne_nil _ _) (Text.solid_of_any rfl) s t
  have upper : Text.asciiUpper (Text.trimStart s ++ rationaleMark ++ Text.trimEnd t) =
      Text.asciiUpper (Text.trimStart s) ++ rationaleMark ++ Text.asciiUpper (Text.trimEnd t) := by
    rw [Text.asciiUpper, List.map_append, List.map_append]
    rfl
  have clear : ¬ rationaleMark <:+: Text.asciiUpper (Text.trimStart s) := by
    intro marked
    exact unmarked (marked.trans ((List.dropWhile_suffix _).map _).isInfix)
  have after : Text.after? rationaleMark (Text.asciiUpper (Text.trimStart s ++ rationaleMark ++
      Text.trimEnd t)) = some (Text.asciiUpper (Text.trimEnd t)) := by
    have apart : ∀ c ∈ rationaleMark.head?, c ∉ rationaleMark.tail :=
      Text.forall_mem_some (by decide)
    rw [Text.after?_eq_cut?, upper, Text.cut?_append apart clear]
    rfl
  have length : (Text.asciiUpper (Text.trimEnd t)).length = (Text.trimEnd t).length :=
    List.length_map _
  rw [findRationale?, kept, after, Option.map_some, length, List.length_append,
    Nat.add_sub_cancel, List.drop_left, Text.trim_trimEnd]

/-- What stands after the mark of the rationale in a trimmed reply. -/
def ending (r : Reply) : List Char :=
  Text.trimEnd (' ' :: r.rationale.toList)

theorem rationaleOf_append (unmarked : ¬ rationaleMark <:+: Text.asciiUpper s) (r : Reply) :
    rationaleOf (Text.trim (s ++ rationaleMark ++ r.ending)) = Text.trimmed r.rationale := by
  have kept : Text.trim (' ' :: r.rationale.toList) = Text.trim r.rationale.toList :=
    Text.trim_append_left Text.blank_space _
  rw [rationaleOf, findRationale?_append unmarked, Option.getD_some, ending, Text.trim_trimEnd,
    kept, Text.trimmed]

/-- What stands between the verdict and the mark of the rationale. -/
def middle (r : Reply) : List Char :=
  '\n' :: (r.scoreLine.toList ++ ['\n'])

/-- No mark of a rationale stands between the verdict and the rationale. -/
theorem unmarked_middle (number : Binary64.ofLiteral? r.number.toList = some x) :
    ¬ rationaleMark <:+: Text.asciiUpper r.middle := by
  have upper : Text.asciiUpper r.middle =
      '\n' :: scoreMark ++ ' ' :: (Text.asciiUpper r.number.toList ++ ['\n']) := by
    rw [middle, scoreLine, String.toList_append, Text.asciiUpper, List.map_cons, List.map_append,
      List.map_append]
    rfl
  have other : ∀ c ∈ rationaleMark.head?, c ∉ Text.asciiUpper r.number.toList := by
    apply Text.forall_mem_some
    intro mem
    obtain ⟨c, inside, same⟩ := List.mem_map.1 mem
    exact Binary64.of_isLiteral (P := fun c => c.toUpper ≠ 'R') (by decide +kernel)
      ((Binary64.isLiteral_of_ofLiteral? number).2 c inside) same
  rw [upper]
  -- no mark reaches over the blank before the number
  apply Text.unmarked_append
  · exact Text.forall_mem_some (by decide)
  · decide
  · apply Text.unmarked_cons (by decide)
    exact Text.unmarked_append_of_not_mem other (by decide)

/-- Only the end of a reply is trimmed. -/
theorem trim_text (r : Reply) : Text.trim r.text.toList =
    r.verdict.toList ++ (r.middle ++ rationaleMark ++ r.ending) := by
  have whole : r.text.toList =
      r.verdict.toList ++ r.middle ++ rationaleMark ++ ' ' :: r.rationale.toList := by
    rw [toList_text, middle]
    simp
  have start : Text.trimStart (r.verdict.toList ++ r.middle) = r.verdict.toList ++ r.middle := by
    rw [toList_verdict]
    cases r.feedback <;> rfl
  have kept := Text.trim_append_append (t := rationaleMark) (List.cons_ne_nil _ _)
    (Text.solid_of_any rfl) (r.verdict.toList ++ r.middle) (' ' :: r.rationale.toList)
  rw [whole, kept, start, ending]
  simp only [List.append_assoc]

end Reply

/-! ## Replies as a whole -/

theorem readVerdict_of_pass {text : String} {rest : List Char}
    (whole : Text.trim text.toList = passWord ++ '\n' :: rest) (passScore : Binary64) :
    readVerdict text passScore = ⟨(findScore? text.toList).getD .one, true,
      rationaleOf (Text.trim ('\n' :: rest))⟩ := by
  have passes : startsWithPass (passWord ++ '\n' :: rest) = true :=
    startsWithPass_iff.2 ⟨[], [], '\n' :: rest, rfl, nofun, List.cons_ne_nil _ _,
      Text.solid_of_any rfl, Text.forall_mem_some rfl, nofun, Text.forall_mem_some rfl⟩
  have score := findScore?_trim text.toList
  rw [whole] at score
  rw [readVerdict, whole, if_pos passes, List.drop_left, score]
  rfl

theorem readVerdict_of_fail {text : String} {rest : List Char}
    (whole : Text.trim text.toList = failMark ++ rest) (passScore : Binary64) :
    readVerdict text passScore = ⟨(findScore? text.toList).getD .zero, false,
      rationaleOf (Text.trim rest)⟩ := by
  have other : startsWithPass (failMark ++ rest) ≠ true := by
    intro passes
    have starts : passWord <+: failMark ++ rest :=
      starts_with_passWord (Text.forall_mem_some (c := 'F') rfl) passes
    exact absurd (List.cons_prefix_cons.1 starts).1 (by decide)
  have fails : failMark.isPrefixOf (failMark ++ rest) = true :=
    List.isPrefixOf_iff_prefix.2 (List.prefix_append _ _)
  have score := findScore?_trim text.toList
  rw [whole] at score
  rw [readVerdict, whole, if_neg other, if_pos fails, List.drop_left, score]

/-- A reply in the form that is asked for is read as it is meant, with any passing score.  Feedback
may have any number of lines, as long as it holds no mark of a rationale, in any letter case, and
none of its lines states a score; and the rationale is any text. -/
theorem reply_read (r : Reply) (passScore : Binary64) {x : Binary64}
    (number : Binary64.ofLiteral? r.number.toList = some x)
    (unmarked : ∀ feedback ∈ r.feedback, ¬ rationaleMark <:+: Text.asciiUpper feedback.toList)
    (unscored : ∀ feedback ∈ r.feedback, ∀ line ∈ Text.lines feedback.toList, ∀ y,
      ¬ StatesScore line y) :
    readVerdict r.text passScore =
      ⟨clampScore x, r.feedback.isNone, Text.trimmed r.rationale⟩ := by
  have score : findScore? r.text.toList = some (clampScore x) :=
    Reply.findScore?_text number fun feedback given =>
      findScore?_eq_none_iff.2 (unscored feedback given)
  have clear := Reply.unmarked_middle number
  have trimmed := r.trim_text
  rw [Reply.toList_verdict] at trimmed
  cases given : r.feedback with
  | none =>
    rw [given] at trimmed
    rw [readVerdict_of_pass trimmed, score]
    exact congrArg _ (Reply.rationaleOf_append clear r)
  | some feedback =>
    rw [given] at trimmed
    have clear : ¬ rationaleMark <:+: Text.asciiUpper (' ' :: feedback.toList ++ r.middle) := by
      rw [Text.asciiUpper, List.map_append]
      refine Text.unmarked_append ?_ ?_ clear
      · exact Text.forall_mem_some (by decide)
      · exact Text.unmarked_cons (by decide) (unmarked feedback given)
    have parts : failMark ++ ' ' :: feedback.toList ++ (r.middle ++ rationaleMark ++ r.ending) =
        failMark ++ (' ' :: feedback.toList ++ r.middle ++ rationaleMark ++ r.ending) := by
      simp only [List.append_assoc]
    rw [readVerdict_of_fail (trimmed.trans parts), score, Reply.rationaleOf_append clear]
    rfl

/-- Feedback may mention scores and rationales, and the rationale may look like a reply. -/
theorem feedback_of_lines_read :
    readVerdict (Reply.text ⟨some "no rationale yet\nscore: none\nPASS", "15e-1",
        "PASS\nSCORE: 0\nRATIONALE: fine "⟩) .zero =
      ⟨.one, false, "PASS\nSCORE: 0\nRATIONALE: fine"⟩ := by
  have score : (Binary64.ofLiteral? "15e-1".toList).map clampScore = some .one := by decide +kernel
  have unmarked : ¬ rationaleMark <:+:
      Text.asciiUpper "no rationale yet\nscore: none\nPASS".toList := by decide +kernel
  have unscored : findScore? "no rationale yet\nscore: none\nPASS".toList = none := by
    decide +kernel
  have rationale : Text.trimmed "PASS\nSCORE: 0\nRATIONALE: fine " =
      "PASS\nSCORE: 0\nRATIONALE: fine" := by decide +kernel
  obtain ⟨x, number, clamped⟩ := Option.map_eq_some_iff.1 score
  rw [← clamped, ← rationale]
  exact reply_read _ .zero number (by rintro _ ⟨⟩; exact unmarked)
    (by rintro _ ⟨⟩; exact findScore?_eq_none_iff.1 unscored)

end Ensemble.Reflection
