import Ensemble.Proofs.Number.Literal
import Ensemble.Proofs.Reflection.Lifecycle
import Ensemble.Proofs.Text.Word
import Ensemble.Reflection.Iteration

/-!
# The completion mark in prompts

A response reports completion if one of its lines is the completion mark with nothing but blanks
around it.  The prompts of a cycle name the mark, and they repeat texts that somebody wrote: the
goal, the criteria, the feedback and the adjustments.

The words of a prompt keep these texts apart.  Each of their lines is empty or holds a character
that neither is blank nor stands in the mark (`setsApart`).  So a line on which such words meet the
text before or after them is not the mark, and all other lines are lines of one of the texts
(`unmarked_append_append`).  If no line of the texts is the mark, no line of the prompt is one.
-/

namespace Ensemble.Reflection

open Text (pieces)

variable {s t : String} {line : List Char}

/-! ## Lines that are the mark -/

/-- Whether a line is the completion mark, apart from blanks around it. -/
def isMark (line : List Char) : Bool :=
  Text.trim line == completionMark.toList

/-- Blanks before the mark do not matter. -/
theorem isMark_append_left {blanks : List Char} (blank : ∀ c ∈ blanks, Text.isBlank c = true)
    (line : List Char) : isMark (blanks ++ line) = isMark line := by
  rw [isMark, Text.trim_append_left blank, isMark]

/-- Blanks after the mark do not matter. -/
theorem isMark_append_right {blanks : List Char} (line : List Char)
    (blank : ∀ c ∈ blanks, Text.isBlank c = true) : isMark (line ++ blanks) = isMark line := by
  rw [isMark, Text.trim_append_right line blank, isMark]

/-- Whether a character neither is blank nor stands in the completion mark. -/
def isForeign (c : Char) : Bool :=
  !Text.isBlank c && !completionMark.toList.contains c

/-- A line with a character that is neither blank nor in the mark is not the mark. -/
theorem isMark_of_any_isForeign (foreign : line.any isForeign = true) : isMark line = false := by
  refine beq_eq_false_iff_ne.2 fun same => ?_
  obtain ⟨c, mem, other⟩ := List.any_eq_true.1 foreign
  simp only [isForeign, Bool.and_eq_true, Bool.not_eq_true', List.contains_eq_mem,
    decide_eq_false_iff_not] at other
  obtain ⟨before, after, split, blankBefore, blankAfter⟩ := Text.exists_trim line
  rw [split, same, List.mem_append, List.mem_append] at mem
  rcases mem with first | middle | last
  · exact Bool.eq_false_iff.1 other.1 (blankBefore c first)
  · exact other.2 middle
  · exact Bool.eq_false_iff.1 other.1 (blankAfter c last)

/-- A text reports completion if one of its pieces between line feeds is the mark. -/
theorem reportsCompletion_eq_any (text : String) :
    reportsCompletion text = (pieces (· == '\n') text.toList).any isMark :=
  Text.any_lines (p := isMark) rfl
    (fun line => by rw [isMark, Text.trim_dropReturn, isMark]) text.toList

/-- On either side of a line feed the lines are those of the text there. -/
theorem reportsCompletion_append_newline (s t : String) :
    reportsCompletion (s ++ "\n" ++ t) = (reportsCompletion s || reportsCompletion t) := by
  have apart : pieces (· == '\n') (s.toList ++ '\n' :: t.toList) = _ :=
    Text.pieces_append_cons rfl s.toList t.toList
  have chars : (s ++ "\n" ++ t).toList = s.toList ++ '\n' :: t.toList := by
    rw [String.toList_append, String.toList_append, List.append_assoc]
    rfl
  rw [reportsCompletion_eq_any, chars, apart, List.any_append, ← reportsCompletion_eq_any,
    ← reportsCompletion_eq_any]

/-- A text without a line feed reports completion if it is the mark itself. -/
theorem reportsCompletion_of_line (one : ∀ c ∈ s.toList, (c == '\n') = false) :
    reportsCompletion s = isMark s.toList := by
  rw [reportsCompletion_eq_any, Text.pieces_of_plain one, List.any_cons, List.any_nil,
    Bool.or_false]

/-! ## Words that keep texts apart -/

/-- Whether a line is empty or cannot be part of one that is the mark. -/
def breaksMark (line : List Char) : Bool :=
  line.isEmpty || line.any isForeign

/-- Whether words make no mark together with texts before and after them. -/
def setsApart (words : String) : Bool :=
  words != "" && (pieces (· == '\n') words.toList).all breaksMark

/-- A line that breaks the mark does so before and after any text that is not the mark. -/
theorem isMark_append_of_breaksMark (breaks : breaksMark line = true) (text : List Char)
    (unmarked : isMark text = false) :
    isMark (text ++ line) = false ∧ isMark (line ++ text) = false := by
  -- a line breaks the mark if it is empty, or if it has a character that the mark has not
  rcases Bool.or_eq_true_iff.1 breaks with none | foreign
  · rw [List.isEmpty_iff.1 none, List.append_nil, List.nil_append]
    exact ⟨unmarked, unmarked⟩
  · constructor
    · exact isMark_of_any_isForeign (by rw [List.any_append, foreign, Bool.or_true])
    · exact isMark_of_any_isForeign (by rw [List.any_append, foreign, Bool.true_or])

/-- A line that breaks the mark is not the mark. -/
theorem isMark_of_breaksMark (breaks : breaksMark line = true) : isMark line = false :=
  (isMark_append_of_breaksMark breaks [] rfl).1

/-- Words that set texts apart make no mark with the texts around them. -/
theorem unmarked_append_append (before : reportsCompletion s = false) (words : String)
    (apart : setsApart words = true) (after : reportsCompletion t = false) :
    reportsCompletion (s ++ words ++ t) = false := by
  obtain ⟨some, breaks⟩ := Bool.and_eq_true_iff.1 apart
  rw [reportsCompletion_eq_any] at before after ⊢
  rw [String.toList_append, String.toList_append, List.append_assoc]
  obtain ⟨frontS, lastS, join, moreJ, piecesS, piecesJ, whole⟩ :=
    Text.exists_pieces_append (p := (· == '\n')) s.toList (words.toList ++ t.toList)
  obtain ⟨frontW, lastW, firstT, moreT, piecesW, piecesT, joined⟩ :=
    Text.exists_pieces_append (p := (· == '\n')) words.toList t.toList
  rw [piecesS, List.any_append, List.any_cons, List.any_nil, Bool.or_false,
    Bool.or_eq_false_iff] at before
  rw [piecesT, List.any_cons, Bool.or_eq_false_iff] at after
  rw [piecesW, List.all_append, List.all_cons, List.all_nil, Bool.and_true,
    Bool.and_eq_true] at breaks
  have inside : frontW.any isMark = false := by
    refine List.any_eq_false.2 fun line mem => ?_
    rw [isMark_of_breaksMark (List.all_eq_true.1 breaks.1 line mem)]
    exact Bool.false_ne_true
  rw [whole, List.any_append, before.1, Bool.false_or]
  rw [joined] at piecesJ
  cases frontW with
  | nil =>
    -- The words are on one line, which holds a character of their own.
    obtain ⟨rfl, rfl⟩ := List.cons.inj piecesJ
    have foreign : lastW.any isForeign = true := by
      rcases Bool.or_eq_true_iff.1 breaks.2 with none | foreign
      · rw [List.isEmpty_iff.1 none] at piecesW
        have empty : words = "" := String.toList_eq_nil_iff.1 (Text.eq_nil_of_pieces piecesW)
        rw [empty] at some
        cases some
      · exact foreign
    have other : isMark (lastS ++ (lastW ++ firstT)) = false := by
      apply isMark_of_any_isForeign
      rw [List.any_append, List.any_append, foreign, Bool.true_or, Bool.or_true]
    rw [List.any_cons, other, Bool.false_or]
    exact after.2
  | cons first frontW =>
    obtain ⟨rfl, rfl⟩ := List.cons.inj piecesJ
    rw [List.all_cons, Bool.and_eq_true] at breaks
    rw [List.any_cons, Bool.or_eq_false_iff] at inside
    have meet := (isMark_append_of_breaksMark breaks.1.1 lastS before.2).1
    have part := (isMark_append_of_breaksMark breaks.2 firstT after.1).2
    simp only [List.append_eq, List.any_cons, List.any_append, meet, inside.2, part, after.2,
      Bool.or_false]

/-- Words that set texts apart make no mark with the text before them. -/
theorem unmarked_append (before : reportsCompletion s = false) (words : String)
    (apart : setsApart words = true) : reportsCompletion (s ++ words) = false := by
  have ended := unmarked_append_append before words apart (t := "") rfl
  rwa [String.append_empty] at ended

/-- A digit neither is blank nor stands in the mark. -/
theorem isForeign_of_isDigit {c : Char} (digit : c.isDigit = true) : isForeign c = true := by
  have undigited : completionMark.toList.any Char.isDigit = false := by decide
  have other : c ∉ completionMark.toList := fun mem =>
    List.any_eq_false.1 undigited c mem digit
  have solid := Binary64.isBlank_of_isLiteral (Binary64.isLiteral_of_isDigit digit)
  rw [isForeign, solid, List.contains_eq_mem, decide_eq_false other]
  rfl

/-- A number is not the mark. -/
theorem reportsCompletion_toString (n : Nat) : reportsCompletion (toString n) = false := by
  have chars : (toString n).toList = Nat.toDigits 10 n := Nat.toList_repr
  have digits : ∀ c ∈ (toString n).toList, c.isDigit = true := fun c mem =>
    Nat.isDigit_of_mem_toDigits (by decide) (by decide) (chars ▸ mem)
  have some : (toString n).toList ≠ [] := chars ▸ Nat.toDigits_ne_nil
  obtain ⟨c, mem⟩ := List.exists_mem_of_ne_nil _ some
  rw [reportsCompletion_of_line]
  · exact isMark_of_any_isForeign (List.any_eq_true.2 ⟨c, mem, isForeign_of_isDigit (digits c mem)⟩)
  · intro d mem
    refine beq_eq_false_iff_ne.2 ?_
    rintro rfl
    cases digits _ mem

/-! ## Prompts -/

namespace Cycle

/-- None of the texts that go into the prompts of a cycle has the mark on a line of its own. -/
structure Unmarked (c : Cycle) : Prop where
  goal : reportsCompletion c.goal = false
  rubric : ∀ rubric ∈ c.rubric, reportsCompletion rubric = false
  feedback : ∀ feedback ∈ c.feedback, reportsCompletion feedback = false
  adjustments : ∀ adjustment ∈ c.adjustments, reportsCompletion adjustment = false

variable {c : Cycle}

/-- The criteria of an unmarked cycle do not report completion. -/
theorem Unmarked.criteria (h : c.Unmarked) : reportsCompletion c.criteria = false := by
  rw [Cycle.criteria]
  cases own : c.rubric with
  | none => exact h.goal
  | some rubric => exact h.rubric rubric own

/-- Feedback brings no mark into a text. -/
theorem Unmarked.feedbackPart (h : c.Unmarked) (before : reportsCompletion s = false) :
    reportsCompletion (s ++ c.feedbackPart) = false := by
  rw [Cycle.feedbackPart]
  split
  next feedback told =>
    rw [← String.append_assoc]
    exact unmarked_append_append before _ (by decide) (h.feedback feedback told)
  next => rwa [String.append_empty]

/-- The adjustments stand on lines of their own, each after a dash. -/
theorem unmarked_join_adjustments {adjustments : List String}
    (unmarked : ∀ adjustment ∈ adjustments, reportsCompletion adjustment = false)
    (before : reportsCompletion s = false) :
    reportsCompletion (s ++ String.join (adjustments.map fun a => "\n- " ++ a)) = false := by
  induction adjustments generalizing s with
  | nil => rwa [List.map_nil, String.join_nil, String.append_empty]
  | cons adjustment rest ih =>
    rw [List.forall_mem_cons] at unmarked
    rw [List.map_cons, String.join_cons, ← String.append_assoc, ← String.append_assoc]
    exact ih unmarked.2 (unmarked_append_append before _ (by decide) unmarked.1)

/-- Adjustments bring no mark into a text. -/
theorem Unmarked.adjustmentsPart (h : c.Unmarked) (before : reportsCompletion s = false) :
    reportsCompletion (s ++ c.adjustmentsPart) = false := by
  rw [Cycle.adjustmentsPart]
  split
  next => rwa [String.append_empty]
  next =>
    rw [← String.append_assoc]
    exact unmarked_join_adjustments h.adjustments (unmarked_append before _ (by decide))

/-- The request for the mark has words around it, so it is not the mark itself. -/
theorem unmarked_markRequest (before : reportsCompletion s = false) (withMark : Bool) :
    reportsCompletion (s ++ markRequest withMark) = false := by
  cases withMark with
  | true => exact unmarked_append before _ (by decide)
  | false =>
    rw [markRequest, if_neg Bool.false_ne_true, String.append_empty]
    exact before

/-- The initial prompt does not report completion, after any text that does not. -/
theorem Unmarked.initialPrompt (h : c.Unmarked) (before : reportsCompletion s = false)
    (withMark : Bool) : reportsCompletion (s ++ c.initialPrompt withMark) = false := by
  have goal := unmarked_append_append before "Goal: " (by decide) h.goal
  have budget := unmarked_append_append goal
    "\n\nThis is iteration 1 of at most " (by decide)
    (reportsCompletion_toString c.maxIterations)
  have work := unmarked_append budget ". Work toward the goal." (by decide)
  have whole := unmarked_markRequest work withMark
  simp only [Cycle.initialPrompt, String.append_assoc] at whole ⊢
  exact whole

/-- The follow-up prompt does not report completion, after any text that does not. -/
theorem Unmarked.followUpPrompt (h : c.Unmarked) (before : reportsCompletion s = false)
    (withMark : Bool) : reportsCompletion (s ++ c.followUpPrompt withMark) = false := by
  have iteration := unmarked_append_append before "Iteration " (by decide)
    (reportsCompletion_toString c.nextIteration)
  have budget := unmarked_append_append iteration " of " (by decide)
    (reportsCompletion_toString c.maxIterations)
  have criteria := unmarked_append_append budget ".\n\nEvaluation criteria: "
    (by decide) h.criteria
  have goal := unmarked_append criteria
    "\n\nThe goal is NOT complete. Treat it as not complete unless it is genuinely, "
    (by decide)
  have work := unmarked_append goal
    "fully achieved. Review your previous output critically and improve it." (by decide)
  have whole := unmarked_markRequest (h.adjustmentsPart (h.feedbackPart work)) withMark
  unfold Cycle.followUpPrompt
  simp only [String.append_assoc] at whole ⊢
  exact whole

/-- The prompt of an iteration does not report completion, after any text that does not. -/
theorem Unmarked.iterationPrompt (h : c.Unmarked) (before : reportsCompletion s = false) :
    reportsCompletion (s ++ c.iterationPrompt) = false := by
  rw [Cycle.iterationPrompt]
  split
  next => exact h.initialPrompt before c.usesMark
  next => exact h.followUpPrompt before c.usesMark

/-- A response without the mark does not meet the goal. -/
theorem conclude_ne_goalMet {response : String} (unmarked : reportsCompletion response = false)
    (now : Timestamp) : (c.conclude response now).1 ≠ .goalMet := by
  rw [conclude, unmarked]
  split
  next =>
    intro met
    have settling := c.settle_settling response false now
    generalize c.settle response false now = ended at settling met
    -- without a report of completion there is no other way to meet the goal
    cases settling with
    | goalMet reported => cases reported
    | stalled | exhausted | continued => cases met
  next =>
    intro met
    cases met

/-- The iteration that is taken has a prompt that does not report completion. -/
theorem Unmarked.takeIteration (h : c.Unmarked) {iteration : Iteration} {begun : Cycle}
    (taken : c.takeIteration = (.ok iteration, begun)) (before : reportsCompletion s = false) :
    reportsCompletion (s ++ iteration.prompt) = false := by
  rw [Cycle.takeIteration] at taken
  split at taken
  next => cases taken
  next =>
    split at taken
    next => cases taken
    next =>
      cases taken
      exact h.iterationPrompt before

end Cycle

/-! ## The mark on a line of its own -/

/-- Whether a text is made of blanks within a line. -/
def IsMargin (s : String) : Prop :=
  ∀ c ∈ s.toList, Text.isBlank c = true ∧ c ≠ '\n'

/-- Whether a text can follow a line: it is empty, or goes on with other lines. -/
def EndsLine (s : String) : Prop :=
  s = "" ∨ ∃ more, s = "\n" ++ more

/-- A response reports completion if the mark stands on one of its lines with nothing but blanks
around it. -/
theorem reportsCompletion_of_mark {left right later : String} (leftBlank : IsMargin left)
    (rightBlank : IsMargin right) (ends : EndsLine later) (response : String) :
    reportsCompletion (response ++ "\n" ++ (left ++ completionMark ++ right ++ later)) = true := by
  have chars : (left ++ completionMark ++ right).toList =
      left.toList ++ (completionMark.toList ++ right.toList) := by
    rw [String.toList_append, String.toList_append, List.append_assoc]
  have own : isMark (left ++ completionMark ++ right).toList = true := by
    rw [chars, isMark_append_left fun c mem => (leftBlank c mem).1,
      isMark_append_right _ fun c mem => (rightBlank c mem).1]
    rfl
  have line : reportsCompletion (left ++ completionMark ++ right) = true := by
    rw [reportsCompletion_of_line, own]
    rw [chars, List.forall_mem_append, List.forall_mem_append]
    have one : completionMark.toList.any (· == '\n') = false := by decide
    refine ⟨fun c mem => ?_, fun c mem => ?_, fun c mem => ?_⟩
    · exact beq_eq_false_iff_ne.2 (leftBlank c mem).2
    · exact Bool.eq_false_iff.2 (List.any_eq_false.1 one c mem)
    · exact beq_eq_false_iff_ne.2 (rightBlank c mem).2
  rw [reportsCompletion_append_newline, Bool.or_eq_true]
  -- the line of the mark is the last one, or another line follows
  rcases ends with rfl | ⟨more, rfl⟩
  · rw [String.append_empty]
    exact .inr line
  · rw [← String.append_assoc, reportsCompletion_append_newline, line, Bool.true_or]
    exact .inr rfl

/-- A prompt that is sent back does not report completion and does not meet the goal of the cycle,
with any text before it that has no mark on a line of its own; a response does report completion
that goes on with the mark on a line of its own, with any blanks around it. -/
theorem echoed_prompt_unmarked {c : Cycle} {front : String} (unmarked : c.Unmarked)
    (before : reportsCompletion front = false) :
    (∀ withMark, reportsCompletion (front ++ c.initialPrompt withMark) = false ∧
      reportsCompletion (front ++ c.followUpPrompt withMark) = false) ∧
    (∀ iteration begun, c.takeIteration = (.ok iteration, begun) → ∀ now,
      (begun.conclude (front ++ iteration.prompt) now).1 ≠ .goalMet) ∧
    ∀ response left right later, IsMargin left → IsMargin right → EndsLine later →
      reportsCompletion
        (response ++ "\n" ++ (left ++ completionMark ++ right ++ later)) = true := by
  refine ⟨fun withMark => ⟨?_, ?_⟩, fun iteration begun taken now => ?_, ?_⟩
  · exact unmarked.initialPrompt before withMark
  · exact unmarked.followUpPrompt before withMark
  · exact Cycle.conclude_ne_goalMet (unmarked.takeIteration taken before) now
  · intro response left right later leftBlank rightBlank ends
    exact reportsCompletion_of_mark leftBlank rightBlank ends response

/-- The texts of a cycle may name the mark next to other words; the prompts made of them are not
taken for a report, with the words of an echo before them, and the mark on a line after them is. -/
theorem mark_among_words_unmarked :
    let time : Timestamp := ⟨0, 0⟩
    let c : Cycle := { Cycle.create ⟨1⟩ "Explain [[COMPLETE]]\nto a reader" 3 time with
      currentIteration := 1
      rubric := some "[[COMPLETE]].\n\n"
      feedback := some "Say what\n[[COMPLETE]] means"
      adjustments := ["[[COMPLETE]]s are short", ""] }
    let echo := "Echo:" ++ c.iterationPrompt
    (c.Unmarked ∧ reportsCompletion "Echo:" = false) ∧
      reportsCompletion ("Echo:" ++ c.initialPrompt true) = false ∧
      reportsCompletion echo = false ∧
      (c.dropAdjustments.begin.conclude echo time).1 ≠ .goalMet ∧
      (IsMargin "\t" ∧ IsMargin "\x0c\r" ∧ EndsLine "\nBye") ∧
      reportsCompletion
        (echo ++ "\n" ++ ("\t" ++ completionMark ++ "\x0c\r" ++ "\nBye")) = true := by
  intro time c echo
  have unmarked : c.Unmarked := by
    refine ⟨by decide +kernel, ?_, ?_, ?_⟩ <;> decide +kernel
  have tab : IsMargin "\t" := List.forall_mem_singleton.2 (by decide)
  have feed : IsMargin "\x0c\r" :=
    List.forall_mem_cons.2 ⟨by decide, List.forall_mem_singleton.2 (by decide)⟩
  have ends : EndsLine "\nBye" := .inr ⟨"Bye", rfl⟩
  have front : reportsCompletion "Echo:" = false := by decide +kernel
  obtain ⟨prompts, echoed, marked⟩ := echoed_prompt_unmarked unmarked front
  have met := echoed ⟨c.iterationPrompt, none⟩ c.dropAdjustments.begin rfl time
  exact ⟨⟨unmarked, front⟩, (prompts true).1, (prompts true).2, met, ⟨tab, feed, ends⟩,
    marked echo "\t" "\x0c\r" "\nBye" tab feed ends⟩

end Ensemble.Reflection
