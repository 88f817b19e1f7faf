import Ensemble.Proofs.Reflection.Lifecycle

/-!
# How a cycle ended

A cycle keeps no note of how it ended.  `Cycle.outcome?` reads it off the flags and counters that
are left.  The operation that ends a cycle is either one that answers with a decision, and then the
decision can be read off: each ending leaves the flag or the counter that tells it from the others
(`Tells`).  Or the cycle is stopped, which leaves nothing.  A cycle that is stopped before its last
iteration has begun counts as stopped; one that is stopped later looks as if its budget were used
up.
-/

namespace Ensemble.Reflection.Cycle

/-- The outcome of a cycle that a decision has ended is that decision. -/
def Tells (ended : Decision × Cycle) : Prop :=
  ended.1.isTerminal = true → ended.2.outcome? = some ended.1

/-- Once a cycle is inactive, its outcome depends on what no operation changes any more. -/
theorem Over.outcome?_after {c : Cycle} (h : c.Over) (more : List Operation) :
    (c.after more).outcome? = c.outcome? := by
  obtain ⟨-, history, adjustments, same⟩ := h.after more
  rw [same]
  rfl

/-! ## Endings that answer with a decision -/

namespace Running

variable {c : Cycle}

/-- A running cycle that is finished as it is has either used up its budget or is stopped. -/
theorem outcome?_finish (h : c.Running) (now : Timestamp) :
    (c.finish now).outcome? =
      some (if c.maxIterations ≤ c.currentIteration then .budgetExhausted else .stopped) := by
  simp only [outcome?, Cycle.finish, h.unmet, h.unstalled, Bool.false_eq_true, if_false]
  split <;> rfl

/-- A running cycle that stalls has stalled as its outcome. -/
theorem outcome?_stalled (h : c.Running) (stalls : Nat) (now : Timestamp) :
    ({ c with consecutiveStalls := stalls, isStalled := true }.finish now).outcome? =
      some .stalled := by
  simp only [outcome?, Cycle.finish, h.unmet, Bool.false_eq_true, if_false, if_true]

/-- Settling an iteration tells its decision by the outcome. -/
theorem settle_tells (h : c.Running) (response : String) (goalMet : Bool) (now : Timestamp) :
    Tells (c.settle response goalMet now) := by
  have settling := c.settle_settling response goalMet now
  generalize c.settle response goalMet now = ended at settling
  have taken := h.answered response
  intro terminal
  cases settling with
  | goalMet => rfl
  | stalled => exact taken.outcome?_stalled _ now
  | exhausted _ few spent adjustments =>
    rw [(taken.count (h.stallsWith_lt few) adjustments).outcome?_finish now]
    exact congrArg some (if_pos spent)
  | continued => cases terminal

/-- Concluding an iteration tells its decision by the outcome. -/
theorem conclude_tells (h : c.Running) (response : String) (now : Timestamp) :
    Tells (c.conclude response now) := by
  rw [Cycle.conclude, if_pos h.active]
  exact h.settle_tells response _ now

/-- Concluding with an evaluation tells its decision by the outcome. -/
theorem concludeWith_tells (h : c.Running) (response : String) (evaluation : Evaluation)
    (model : Option String) (now : Timestamp) :
    Tells (c.concludeWith response evaluation model now) := by
  obtain ⟨history, feedback, adjustments, taken⟩ :=
    concludeWith_of_active h.active response evaluation model now
  have evaluated : Running { c with history, feedback, adjustments } :=
    ⟨h.active, h.uncompleted, h.unmet, h.unstalled, h.few⟩
  rw [taken]
  exact evaluated.settle_tells response _ now

/-- Giving an iteration back tells its decision by the outcome. -/
theorem retry_tells (h : c.Running) (now : Timestamp) : Tells (c.retry now) := by
  have given : Running { c with currentIteration := c.currentIteration - 1 } :=
    ⟨h.active, h.uncompleted, h.unmet, h.unstalled, h.few⟩
  rw [Cycle.retry, if_pos h.active]
  rcases Nat.lt_or_ge (c.nextStall) c.stallThreshold with few | last
  · rw [countStall_of_few (c := { c with currentIteration := c.currentIteration - 1 }) few]
    intro terminal
    cases terminal
  · rw [countStall_of_last (c := { c with currentIteration := c.currentIteration - 1 }) last]
    intro
    exact given.outcome?_stalled _ now

end Running

/-! ## The operation that ends a cycle -/

/-- What the outcome says of the operation that has ended the cycle `c`: the decision that was its
answer, or, for a cycle that was stopped, what its counter of iterations looks like. -/
inductive EndedBy (c : Cycle) (op : Operation) (outcome : Option Decision) : Prop
  | decided (decision : Decision) (asks : op.asksDecision = true)
      (answer : (c.perform op).1 = .decision decision) (terminal : decision.isTerminal = true)
      (tells : outcome = some decision)
  | stopped (now : Timestamp) (stop : op = .stop now)
      (counts : outcome =
        some (if c.maxIterations ≤ c.currentIteration then .budgetExhausted else .stopped))

/-- A decision that ends a cycle and tells so is what has ended it. -/
theorem Decided.endedBy {c : Cycle} {op : Operation} {ended : Decision × Cycle}
    (decided : Decided ended) (tells : Tells ended) (asks : op.asksDecision = true)
    (performed : c.perform op = Answer.ofDecision ended)
    (inactive : (c.perform op).2.isActive = false) :
    EndedBy c op (c.perform op).2.outcome? := by
  rw [performed] at inactive ⊢
  have terminal : ended.1.isTerminal = true := by
    cases decided with
    | goesOn running => exact absurd running.active (Bool.eq_false_iff.1 inactive)
    | ends terminal => exact terminal
  exact .decided ended.1 asks (congrArg Prod.fst performed) terminal (tells terminal)

/-- An operation that ends a running cycle answers with the decision that the outcome tells
afterwards, or it stops the cycle. -/
theorem Running.endedBy {c : Cycle} (h : c.Running) {op : Operation}
    (inactive : (c.perform op).2.isActive = false) : EndedBy c op (c.perform op).2.outcome? := by
  cases op with
  | conclude response now =>
    exact (h.conclude response now).endedBy (h.conclude_tells response now) rfl rfl inactive
  | concludeWith response evaluation model now =>
    exact (h.concludeWith response evaluation model now).endedBy
      (h.concludeWith_tells response evaluation model now) rfl rfl inactive
  | advance response now =>
    exact (h.begin.conclude response now).endedBy (h.begin.conclude_tells response now) rfl rfl
      inactive
  | advanceWith response evaluation model now =>
    exact (h.begin.concludeWith response evaluation model now).endedBy
      (h.begin.concludeWith_tells response evaluation model now) rfl rfl inactive
  | retry now => exact (h.retry now).endedBy (h.retry_tells now) rfl rfl inactive
  | stop now =>
    have stopped : c.stop now = c.finish now := if_pos h.active
    refine .stopped now rfl ?_
    rw [Cycle.perform, stopped]
    exact h.outcome?_finish now
  | begin => exact absurd h.begin.active (Bool.eq_false_iff.1 inactive)
  -- the operations that are left do not end a cycle
  | record | takeAdjustments | resume => exact absurd h.active (Bool.eq_false_iff.1 inactive)
  | pause =>
    have paused : c.pause = { c with isPaused := true } := if_pos h.active
    rw [Cycle.perform, paused] at inactive
    exact absurd h.active (Bool.eq_false_iff.1 inactive)

/-- Among operations after which a running cycle is over, there is one that ends it. -/
theorem Running.exists_ending {c : Cycle} (h : c.Running) {ops : List Operation}
    (inactive : (c.after ops).isActive = false) :
    ∃ past op rest, ops = past ++ op :: rest ∧ (c.after past).Running ∧
      ((c.after past).perform op).2.Over := by
  induction ops generalizing c with
  | nil => exact absurd h.active (Bool.eq_false_iff.1 inactive)
  | cons op rest ih =>
    rcases h.perform op with running | closed
    · obtain ⟨past, op', rest', same, before, after⟩ := ih running inactive
      exact ⟨op :: past, op', rest', congrArg (op :: ·) same, before, after⟩
    · exact ⟨[], op, rest, rfl, h, closed⟩

/-- Operations one after another can be cut in two. -/
theorem after_append (c : Cycle) (ops more : List Operation) :
    c.after (ops ++ more) = (c.after ops).after more :=
  List.foldl_append

/--
Whatever operations end a cycle that was set up, one of them turns it from active to inactive, and
the outcome of the cycle tells how: it is the decision with which that operation answered, which
ends a cycle.  If instead the cycle was stopped, the outcome is that it was stopped as long as its
last iteration had not begun, and after that, that its budget is used up.  No later operation
changes the outcome.
-/
theorem outcome_tells_ending {c : Cycle} (built : Built c) {ops : List Operation}
    (inactive : (c.after ops).isActive = false) :
    (∃ past op rest, ops = past ++ op :: rest ∧ (c.after past).isActive = true ∧
      ((c.after past).perform op).2.isActive = false ∧
      EndedBy (c.after past) op (c.after ops).outcome?) ∧
    ∀ more, (c.after (ops ++ more)).outcome? = (c.after ops).outcome? := by
  obtain ⟨past, op, rest, rfl, running, closed⟩ := built.fresh.running.exists_ending inactive
  have ended : c.after (past ++ op :: rest) = ((c.after past).perform op).2.after rest :=
    after_append c past (op :: rest)
  refine ⟨⟨past, op, rest, rfl, running.active, closed.inactive, ?_⟩, fun more => ?_⟩
  · rw [ended, closed.outcome?_after]
    exact running.endedBy closed.inactive
  · rw [after_append, ended, (closed.after rest).1.outcome?_after]

/-- A cycle that stalls in its last iteration counts as stalled, and stays so when it is retried and
stopped. -/
theorem stalled_in_last_iteration_told :
    let time : Timestamp := ⟨0, 0⟩
    let c := (create ⟨1⟩ "goal" 2 time).withStallThreshold 1
    let ops : List Operation := [.advance "same" time, .pause, .advance "same" time]
    Built c ∧ (c.after ops).isActive = false ∧ (c.after ops).currentIteration = c.maxIterations ∧
      (c.after (ops ++ [.retry time, .stop time])).outcome? = some .stalled := by
  intro time c ops
  have built : Built c := .withStallThreshold (.create ⟨1⟩ "goal" (by decide) time) (by decide)
  have inactive : (c.after ops).isActive = false := by decide
  obtain ⟨-, same⟩ := outcome_tells_ending built inactive
  exact ⟨built, inactive, by decide, (same _).trans (by decide)⟩

/-- A cycle that is stopped in its last iteration counts as one that has used up its budget. -/
theorem stopped_in_last_iteration_untold :
    let time : Timestamp := ⟨0, 0⟩
    let c := create ⟨1⟩ "goal" 1 time
    Built c ∧ (c.after [.begin]).isActive = true ∧
      ((c.after [.begin]).perform (.stop time)).2.isActive = false ∧
      (c.after [.begin, .stop time]).outcome? = some .budgetExhausted := by
  intro time c
  exact ⟨.create ⟨1⟩ "goal" (by decide) time, by decide, by decide, by decide⟩

end Ensemble.Reflection.Cycle
