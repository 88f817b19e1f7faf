import Ensemble.Proofs.Reflection.Lifecycle
import Mathlib.Data.List.DropRight

/-!
# Decisions and the history of a cycle

Each iteration is begun and then comes to one of three endings.  The decision at its end depends on
two counters, of iterations and of stalls in a row, of which neither goes one way only: an iteration
that failed is given back and counts as a stall, and a response that does not stall takes the count
of stalls back to zero.

Here the decision is read off the endings so far.  An iteration *stalls* if it failed, or if its
response stalls after the response concluded before it.  As long as a cycle is active its counters
are those of its history (`Cycle.Follows`), and there have been fewer iterations than the budget
times the stall threshold: between two concluded iterations, fewer fail than the threshold allows.
-/

namespace Ensemble.Reflection

/-- How an iteration ends. -/
inductive Ending where
  | concluded (response : String) (now : Timestamp)
  | evaluated (response : String) (evaluation : Evaluation) (model : Option String)
      (now : Timestamp)
  /-- The iteration failed and is given back. -/
  | failed (now : Timestamp)
  deriving DecidableEq, Repr

namespace Ending

/-- The response that an iteration is concluded with. -/
def response? : Ending → Option String
  | concluded response _ => some response
  | evaluated response _ _ _ => some response
  | failed _ => none

/-- Whether an iteration meets the goal: with the completion mark, or in the verdict of an
evaluator. -/
def meetsGoal : Ending → Bool
  | concluded response _ => reportsCompletion response
  | evaluated _ evaluation _ _ => evaluation.passed
  | failed _ => false

/-- Whether an iteration stalls after the response concluded before it. -/
def stalls (similarity : Binary64) (previous : Option String) (e : Ending) : Bool :=
  match e.response? with
  | some response => (checkStall previous response similarity).isStall
  | none => true

/-- The response concluded last, an earlier one if there is none. -/
def lastResponse (previous : Option String) (endings : List Ending) : Option String :=
  endings.foldl (fun previous e => e.response?.or previous) previous

/-- Which iterations stall, in order. -/
def stallsOf (similarity : Binary64) : Option String → List Ending → List Bool
  | _, [] => []
  | previous, e :: rest =>
    e.stalls similarity previous :: stallsOf similarity (e.response?.or previous) rest

/-- How many iterations were concluded. -/
def concludedCount (endings : List Ending) : Nat :=
  endings.countP fun e => e.response?.isSome

variable {similarity : Binary64} {previous : Option String}

/-- The last response is that of the last ending, if it has one. -/
theorem lastResponse_concat (past : List Ending) (e : Ending) :
    lastResponse previous (past ++ [e]) = e.response?.or (lastResponse previous past) := by
  rw [lastResponse, List.foldl_append]
  rfl

/-- Whether the last ending stalls is judged by the last response before it. -/
theorem stallsOf_concat (past : List Ending) (e : Ending) :
    stallsOf similarity previous (past ++ [e]) =
      stallsOf similarity previous past ++ [e.stalls similarity (lastResponse previous past)] := by
  induction past generalizing previous with
  | nil => rfl
  | cons first rest ih =>
    rw [List.cons_append, stallsOf, stallsOf, ih, List.cons_append]
    rfl

/-- The last ending counts if it has a response. -/
theorem concludedCount_concat (past : List Ending) (e : Ending) :
    concludedCount (past ++ [e]) = concludedCount past + if e.response?.isSome then 1 else 0 := by
  rw [concludedCount, List.countP_append, List.countP_singleton, concludedCount]

end Ending

/-! ## The last flags of a list -/

/-- How many flags are set at the end of a list. -/
def trailing (flags : List Bool) : Nat :=
  (flags.rtakeWhile id).length

/-- The flags that are set at the end are one more, or none at all. -/
theorem trailing_concat (flags : List Bool) (flag : Bool) :
    trailing (flags ++ [flag]) = if flag then trailing flags + 1 else 0 := by
  cases flag with
  | false => rw [trailing, List.rtakeWhile_concat_neg _ _ _ Bool.false_ne_true]; rfl
  | true => rw [trailing, List.rtakeWhile_concat_pos _ _ _ rfl, List.length_append]; rfl

/-- So many flags are set at the end exactly if the last ones are all set. -/
theorem le_trailing_iff {flags : List Bool} {n : Nat} :
    n ≤ trailing flags ↔ List.replicate n true <:+ flags := by
  induction flags using List.reverseRecOn generalizing n with
  | nil =>
    rw [List.suffix_nil, List.replicate_eq_nil_iff]
    exact Nat.le_zero
  | append_singleton flags flag ih =>
    rw [trailing_concat, List.suffix_concat_iff, List.replicate_eq_nil_iff]
    cases n with
    | zero => exact iff_of_true (Nat.zero_le _) (.inl rfl)
    | succ n =>
      rw [List.replicate_succ', or_iff_right (Nat.succ_ne_zero n)]
      constructor
      · intro enough
        -- the last flag is set, or nothing trails at all
        cases flag with
        | false => cases enough
        | true => exact ⟨_, rfl, ih.1 (Nat.le_of_succ_le_succ enough)⟩
      · rintro ⟨front, same, suffix⟩
        obtain ⟨rfl, last⟩ := List.append_inj' same rfl
        cases last
        exact Nat.succ_le_succ (ih.2 suffix)

namespace Cycle

/-- Begins an iteration and brings it to its end. -/
def iterate (c : Cycle) : Ending → Decision × Cycle
  | .concluded response now => c.begin.conclude response now
  | .evaluated response evaluation model now => c.begin.concludeWith response evaluation model now
  | .failed now => c.begin.retry now

/-- The cycle after iterations. -/
def iterated (c : Cycle) (endings : List Ending) : Cycle :=
  endings.foldl (fun c e => (c.iterate e).2) c

/-- The last ending comes upon what the endings before it have made of the cycle. -/
theorem iterated_concat (c : Cycle) (past : List Ending) (e : Ending) :
    c.iterated (past ++ [e]) = ((c.iterated past).iterate e).2 :=
  List.foldl_append

/-! ## One iteration -/

/-- What an active cycle `s` has in common with the cycle `c` that it was and the iterations since
then. -/
structure Follows (c : Cycle) (past : List Ending) (s : Cycle) : Prop where
  running : s.Running
  limited : s.Limited
  budget : s.maxIterations = c.maxIterations
  threshold : s.stallThreshold = c.stallThreshold
  similarity : s.stallSimilarity = c.stallSimilarity
  iteration : s.currentIteration = Ending.concludedCount past
  response : s.lastResponse = Ending.lastResponse none past
  stalls : s.consecutiveStalls = trailing (Ending.stallsOf c.stallSimilarity none past)
  left : s.currentIteration < s.maxIterations
  /-- Every concluded iteration has paid for the failed ones after it. -/
  paid : past.length ≤ s.currentIteration * s.stallThreshold + s.consecutiveStalls

/-- What the history says of the decision at the end of an iteration. -/
def decisionOf (c : Cycle) (past : List Ending) (e : Ending) : Decision :=
  if e.meetsGoal then .goalMet
  else if List.replicate c.stallThreshold true <:+
      Ending.stallsOf c.stallSimilarity none (past ++ [e]) then .stalled
  else if e.response?.isSome ∧ Ending.concludedCount (past ++ [e]) = c.maxIterations then
    .budgetExhausted
  else .continue

/-- A fresh cycle follows from no endings. -/
theorem Fresh.follows {c : Cycle} (h : c.Fresh) (limited : c.Limited) : Follows c [] c where
  running := h.running
  limited := limited
  budget := rfl
  threshold := rfl
  similarity := rfl
  iteration := h.iteration
  response := h.response
  stalls := h.stalls
  left := by rw [h.iteration]; exact h.budget
  paid := Nat.zero_le _

/-- An iteration has ended as the history says. -/
structure EndsAs (c : Cycle) (past : List Ending) (e : Ending) (ended : Decision × Cycle) :
    Prop where
  decision : ended.1 = c.decisionOf past e
  iteration : ended.2.currentIteration = Ending.concludedCount (past ++ [e])
  within : ended.2.currentIteration ≤ c.maxIterations
  goesOn : ended.1 = .continue → Follows c (past ++ [e]) ended.2
  ends : ended.1 ≠ .continue → ended.2.Over

/-- Once a cycle is over, iterating it says so and changes nothing. -/
theorem Over.iterate_eq {c : Cycle} (h : c.Over) (e : Ending) : c.iterate e = (.stopped, c) := by
  cases e with
  | concluded response now =>
    rw [iterate, h.begin_eq, conclude_of_inactive h.inactive]
  | evaluated response evaluation model now =>
    rw [iterate, h.begin_eq, h.concludeWith_eq]
  | failed now =>
    rw [iterate, h.begin_eq, retry_of_inactive h.inactive]

namespace Follows

variable {c s : Cycle} {past : List Ending} {e : Ending}

/-- As long as a cycle follows its endings, the count of stalls has room for one more. -/
theorem nextStall_eq (h : Follows c past s) : s.nextStall = s.consecutiveStalls + 1 :=
  h.limited.nextStall_eq h.running.few

/-- As long as a cycle follows its endings, the count of iterations has room for one more. -/
theorem begin_eq (h : Follows c past s) :
    s.begin = { s with currentIteration := s.currentIteration + 1 } := by
  rw [begin, if_pos h.running.active, h.limited.nextIteration_eq h.left]

/-- The stalls at the end of the history, with one more iteration. -/
theorem trailing_concat_eq (h : Follows c past s) (e : Ending) :
    trailing (Ending.stallsOf c.stallSimilarity none (past ++ [e])) =
      if e.stalls s.stallSimilarity s.lastResponse then s.consecutiveStalls + 1 else 0 := by
  rw [Ending.stallsOf_concat, trailing_concat, ← h.stalls, ← h.response, ← h.similarity]

/-- The concluded iterations of the history, with one more iteration. -/
theorem concludedCount_concat_eq (h : Follows c past s) (e : Ending) :
    Ending.concludedCount (past ++ [e]) =
      s.currentIteration + if e.response?.isSome then 1 else 0 := by
  rw [Ending.concludedCount_concat, h.iteration]

/-- The decision that the history asks for, by the counters. -/
theorem decisionOf_eq (h : Follows c past s) (e : Ending) :
    c.decisionOf past e =
      if e.meetsGoal then .goalMet
      else if s.stallThreshold ≤
          if e.stalls s.stallSimilarity s.lastResponse then s.consecutiveStalls + 1 else 0 then
        .stalled
      else if e.response?.isSome ∧ s.currentIteration + 1 = s.maxIterations then .budgetExhausted
      else .continue := by
  -- concluded iterations are those that the cycle has counted
  have exhausted_iff :
      (e.response?.isSome ∧ Ending.concludedCount (past ++ [e]) = c.maxIterations) ↔
        (e.response?.isSome ∧ s.currentIteration + 1 = s.maxIterations) := by
    refine and_congr_right fun concluded => ?_
    rw [h.concludedCount_concat_eq, if_pos concluded, h.budget]
  rw [decisionOf, if_congr le_trailing_iff.symm rfl rfl, if_congr exhausted_iff rfl rfl,
    h.trailing_concat_eq, h.threshold]

/-- An iteration that failed counts as a stall and as nothing else. -/
theorem failed (h : Follows c past s) (now : Timestamp) :
    EndsAs c past (.failed now) (s.iterate (.failed now)) := by
  have flags : trailing (Ending.stallsOf c.stallSimilarity none (past ++ [.failed now])) =
      s.consecutiveStalls + 1 := h.trailing_concat_eq (.failed now)
  have count : Ending.concludedCount (past ++ [.failed now]) = s.currentIteration :=
    h.concludedCount_concat_eq (.failed now)
  have within : s.currentIteration ≤ c.maxIterations := h.budget ▸ Nat.le_of_lt h.left
  have ended : s.iterate (.failed now) = s.countStall retryAdjustment now := by
    rw [iterate, h.begin_eq]
    exact if_pos h.running.active
  have decided : c.decisionOf past (.failed now) =
      if s.stallThreshold ≤ s.nextStall then .stalled else .continue := by
    rw [h.nextStall_eq]
    exact h.decisionOf_eq (.failed now)
  rw [← h.nextStall_eq] at flags
  rw [ended]
  -- a failed iteration is given back and counts as a stall, which may be the last one
  rcases Nat.lt_or_ge s.nextStall s.stallThreshold with few | last
  · rw [countStall_of_few few]
    rw [if_neg (Nat.not_le.2 few)] at decided
    refine ⟨decided.symm, count.symm, within, fun _ => ?_, fun ends => absurd rfl ends⟩
    refine ⟨h.running.count few _, ⟨h.limited.iterations, h.limited.stalls⟩, h.budget, h.threshold,
      h.similarity, count.symm, ?_, flags.symm, h.left, ?_⟩
    · rw [Ending.lastResponse_concat, ← h.response]
      rfl
    · show (past ++ [Ending.failed now]).length ≤
        s.currentIteration * s.stallThreshold + s.nextStall
      rw [List.length_append, h.nextStall_eq]
      exact Nat.add_le_add_right h.paid 1
  · rw [countStall_of_last last]
    rw [if_pos last] at decided
    exact ⟨decided.symm, count.symm, within, (fun goesOn => by cases goesOn),
      fun _ => h.running.stalled last now⟩

/-- An iteration that is concluded with a response ends by what the response comes to. -/
theorem settle (h : Follows c past s) {response : String} (is : e.response? = some response)
    (history : List ScoreRecord) (feedback : Option String) (adjustments : List String)
    (now : Timestamp) :
    EndsAs c past e ({ s with
      currentIteration := s.currentIteration + 1, history, feedback, adjustments }.settle
        response e.meetsGoal now) := by
  have begun : Running { s with
      currentIteration := s.currentIteration + 1, history, feedback, adjustments } :=
    ⟨h.running.active, h.running.uncompleted, h.running.unmet, h.running.unstalled, h.running.few⟩
  have settling := Cycle.settle_settling { s with
    currentIteration := s.currentIteration + 1, history, feedback, adjustments }
      response e.meetsGoal now
  have decided := begun.settle response e.meetsGoal now
  have stall : e.stalls s.stallSimilarity s.lastResponse = s.isStall response := by
    rw [Ending.stalls, is]
    rfl
  have flags : trailing (Ending.stallsOf c.stallSimilarity none (past ++ [e])) =
      s.stallsWith response := by
    rw [h.trailing_concat_eq, stall, stallsWith, h.nextStall_eq]
  have count : Ending.concludedCount (past ++ [e]) = s.currentIteration + 1 := by
    rw [h.concludedCount_concat_eq, is, Option.isSome_some, if_pos rfl]
  have decision : c.decisionOf past e =
      if e.meetsGoal then .goalMet
      else if s.stallThreshold ≤ s.stallsWith response then .stalled
      else if s.currentIteration + 1 = s.maxIterations then .budgetExhausted
      else .continue := by
    rw [h.decisionOf_eq, stall, ← h.nextStall_eq, ← stallsWith, is, Option.isSome_some]
    simp only [true_and]
  have within : s.currentIteration + 1 ≤ c.maxIterations := h.budget ▸ h.left
  generalize Cycle.settle _ _ _ _ = ended at settling decided ⊢
  have closed := decided.closed
  cases settling with
  | goalMet met =>
    rw [if_pos met] at decision
    exact ⟨decision.symm, count.symm, within, (fun goesOn => by cases goesOn), closed⟩
  | stalled unmet stall last =>
    have counted : s.stallsWith response = s.nextStall := if_pos stall
    have last : s.stallThreshold ≤ s.nextStall := last
    rw [if_neg (Bool.eq_false_iff.1 unmet), counted, if_pos last] at decision
    exact ⟨decision.symm, count.symm, within, (fun goesOn => by cases goesOn), closed⟩
  | exhausted unmet few spent adjustments =>
    have stalls : s.stallsWith response < s.stallThreshold := h.running.stallsWith_lt few
    have last : s.currentIteration + 1 = s.maxIterations := Nat.le_antisymm h.left spent
    rw [if_neg (Bool.eq_false_iff.1 unmet), if_neg (Nat.not_le.2 stalls), if_pos last] at decision
    exact ⟨decision.symm, count.symm, within, (fun goesOn => by cases goesOn), closed⟩
  | continued unmet few left adjustments =>
    have stalls : s.stallsWith response < s.stallThreshold := h.running.stallsWith_lt few
    rw [if_neg (Bool.eq_false_iff.1 unmet), if_neg (Nat.not_le.2 stalls),
      if_neg (Nat.ne_of_lt left)] at decision
    refine ⟨decision.symm, count.symm, within, fun goesOn => ?_, closed⟩
    refine ⟨decided.running goesOn, ⟨h.limited.iterations, h.limited.stalls⟩, h.budget,
      h.threshold, h.similarity, count.symm, ?_, flags.symm, left, ?_⟩
    · rw [Ending.lastResponse_concat, is]
      rfl
    · -- an iteration pays for the stalls before it: fewer than the threshold
      have paid := h.paid
      have few := h.running.few
      show (past ++ [e]).length ≤
        (s.currentIteration + 1) * s.stallThreshold + s.stallsWith response
      rw [List.length_append, List.length_singleton, Nat.succ_mul]
      omega

/-- An iteration that follows the history ends as the history says. -/
theorem iterate (h : Follows c past s) (e : Ending) : EndsAs c past e (s.iterate e) := by
  have active : s.begin.isActive = true := h.running.begin.active
  -- in each case the iteration that begins is the one that ends
  cases e with
  | concluded response now =>
    have settled := h.settle (e := .concluded response now) rfl s.history s.feedback
      s.adjustments now
    rw [Cycle.iterate, Cycle.conclude, if_pos active, h.begin_eq]
    exact settled
  | evaluated response evaluation model now =>
    obtain ⟨history, feedback, adjustments, taken⟩ :=
      concludeWith_of_active active response evaluation model now
    rw [Cycle.iterate, taken, h.begin_eq]
    exact h.settle (e := .evaluated response evaluation model now) rfl history feedback
      adjustments now
  | failed now => exact h.failed now

end Follows

/-! ## Runs of iterations -/

/-- As long as it is active, a cycle follows its history. -/
theorem Built.follows_iterated {c : Cycle} (h : Built c) (past : List Ending) :
    Follows c past (c.iterated past) ∨ (c.iterated past).Over := by
  induction past using List.reverseRecOn with
  | nil => exact .inl (h.fresh.follows h.limited)
  | append_singleton past e ih =>
    rw [iterated_concat]
    rcases ih with follows | closed
    · have ended := follows.iterate e
      by_cases goesOn : ((c.iterated past).iterate e).1 = .continue
      · exact .inl (ended.goesOn goesOn)
      · exact .inr (ended.ends goesOn)
    · rw [closed.iterate_eq]
      exact .inr closed

/-- A cycle that is active still follows from its endings. -/
theorem Built.follows_of_active {c : Cycle} (h : Built c) {past : List Ending}
    (active : (c.iterated past).isActive = true) : Follows c past (c.iterated past) := by
  rcases h.follows_iterated past with follows | closed
  · exact follows
  · exact absurd active (Bool.eq_false_iff.1 closed.inactive)

/-- An active cycle has had fewer iterations than its budget times its stall threshold. -/
theorem Follows.length_lt {c s : Cycle} {past : List Ending} (h : Follows c past s) :
    past.length < c.maxIterations * c.stallThreshold := by
  rw [← h.budget, ← h.threshold]
  have paid := h.paid
  have few := h.running.few
  have charged : (s.currentIteration + 1) * s.stallThreshold ≤ s.maxIterations * s.stallThreshold :=
    Nat.mul_le_mul_right _ h.left
  rw [Nat.succ_mul] at charged
  omega

/-- Every decision but to go on is terminal. -/
theorem isTerminal_iff {decision : Decision} :
    decision.isTerminal = true ↔ decision ≠ .continue := by
  cases decision <;> decide

/-- A decision is terminal exactly if it leaves the cycle inactive. -/
theorem EndsAs.isTerminal_iff {c : Cycle} {past : List Ending} {e : Ending}
    {ended : Decision × Cycle} (h : EndsAs c past e ended) :
    ended.1.isTerminal = true ↔ ended.2.isActive = false := by
  rw [Cycle.isTerminal_iff]
  refine ⟨fun ends => (h.ends ends).inactive, fun inactive goesOn => ?_⟩
  exact Bool.eq_false_iff.1 inactive (h.goesOn goesOn).running.active

/-- A cycle that is not active any more was ended by one of its iterations. -/
theorem Built.exists_terminal {c : Cycle} (h : Built c) (endings : List Ending)
    (inactive : (c.iterated endings).isActive = false) :
    ∃ past e rest, endings = past ++ e :: rest ∧ (c.iterated past).isActive = true ∧
      ((c.iterated past).iterate e).1.isTerminal = true := by
  induction endings using List.reverseRecOn with
  | nil => exact absurd h.fresh.active (Bool.eq_false_iff.1 inactive)
  | append_singleton past e ih =>
    cases active : (c.iterated past).isActive with
    | true =>
      rw [iterated_concat] at inactive
      have ended := (h.follows_of_active active).iterate e
      exact ⟨past, e, [], rfl, active, ended.isTerminal_iff.2 inactive⟩
    | false =>
      obtain ⟨past', e', rest, same, active', terminal⟩ := ih active
      exact ⟨past', e', rest ++ [e], by rw [same, List.append_assoc]; rfl, active', terminal⟩

/--
The decisions of a cycle that was set up, for any sequence of iterations.  While the cycle is
active, an iteration that meets the goal ends it so; else it has stalled exactly if the last
iterations, as many as the stall threshold, all stalled; else its budget is exhausted exactly if the
iteration was concluded and is as many as the budget; and else it goes on.  Its current iteration is
the number of concluded ones, which is never above the budget.  What is tried after the end is
stopped and changes nothing.  The end comes within as many iterations as the budget times the stall
threshold.
-/
theorem decisions_of_history {c : Cycle} (built : Built c) :
    (∀ past e, (c.iterated past).isActive = true →
      let ended := (c.iterated past).iterate e
      ended.1 =
        (if e.meetsGoal then .goalMet
        else if List.replicate c.stallThreshold true <:+
            Ending.stallsOf c.stallSimilarity none (past ++ [e]) then .stalled
        else if e.response?.isSome ∧ Ending.concludedCount (past ++ [e]) = c.maxIterations then
          .budgetExhausted
        else .continue) ∧
      ended.2.currentIteration = Ending.concludedCount (past ++ [e]) ∧
      ended.2.currentIteration ≤ c.maxIterations ∧
      (ended.1.isTerminal = true ↔ ended.2.isActive = false)) ∧
    (∀ past e, (c.iterated past).isActive = false →
      (c.iterated past).iterate e = (.stopped, c.iterated past)) ∧
    ∀ endings, c.maxIterations * c.stallThreshold ≤ endings.length →
      ∃ past e rest, endings = past ++ e :: rest ∧
        past.length < c.maxIterations * c.stallThreshold ∧
        (c.iterated past).isActive = true ∧
        ((c.iterated past).iterate e).1.isTerminal = true := by
  refine ⟨fun past e active => ?_, fun past e inactive => ?_, fun endings enough => ?_⟩
  · have ended := (built.follows_of_active active).iterate e
    exact ⟨ended.decision, ended.iteration, ended.within, ended.isTerminal_iff⟩
  · rcases built.follows_iterated past with follows | closed
    · exact absurd follows.running.active (Bool.eq_false_iff.1 inactive)
    · exact closed.iterate_eq e
  · -- an active cycle has fewer endings behind it than that
    have inactive : (c.iterated endings).isActive = false := Bool.eq_false_iff.2 fun active =>
      absurd enough (Nat.not_le.2 (built.follows_of_active active).length_lt)
    obtain ⟨past, e, rest, same, active, terminal⟩ := built.exists_terminal endings inactive
    exact ⟨past, e, rest, same, (built.follows_of_active active).length_lt, active, terminal⟩

/-- An iteration that failed and a response that stalls end a cycle as stalled with the very
iteration that would have used up its budget. -/
theorem stalled_on_last_iteration :
    let time : Timestamp := ⟨0, 0⟩
    let c := (Cycle.create ⟨1⟩ "goal" 2 time).withStallThreshold 2
    let past : List Ending := [.failed time, .concluded "draft" time, .failed time]
    let e : Ending := .concluded "draft" time
    Built c ∧ (c.iterated past).isActive = true ∧
      ((c.iterated past).iterate e).1 = .stalled ∧
      ((c.iterated past).iterate e).2.currentIteration = 2 ∧
      ((c.iterated past).iterate e).2.isActive = false ∧
      (∃ past' e' rest, past ++ [e] = past' ++ e' :: rest ∧ past'.length < 4 ∧
        ((c.iterated past').iterate e').1.isTerminal = true) := by
  intro time c past e
  have built : Built c := .withStallThreshold (.create ⟨1⟩ "goal" (by decide) time) (by decide)
  have active : (c.iterated past).isActive = true := by decide
  obtain ⟨decided, -, bounded⟩ := decisions_of_history built
  obtain ⟨decision, iteration, -, terminal⟩ := decided past e active
  have concluded : Ending.concludedCount (past ++ [e]) = 2 := by decide
  have stalled := decision.trans (b := _) (c := .stalled) (by decide)
  have limit : c.maxIterations * c.stallThreshold = 4 := rfl
  rw [concluded] at iteration
  rw [stalled] at terminal
  rw [limit] at bounded
  obtain ⟨past', e', rest, same, early, -, ends⟩ := bounded (past ++ [e]) (Nat.le_refl 4)
  exact ⟨built, active, stalled, iteration, terminal.1 rfl, past', e', rest, same, early, ends⟩

end Cycle

end Ensemble.Reflection
