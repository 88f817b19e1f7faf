import Ensemble.Reflection.Cycle

/-!
# The life of a cycle

A cycle is running until it is over, and both are said by what its flags and counters agree on:
`Cycle.Running` and `Cycle.Over`.  Every operation on a running cycle leaves it running or over, and
the only way from one to the other is `Cycle.finish`, reached when the goal is met, when the stalls
have become too many, when the budget is used up and when the cycle is stopped.  On a cycle that is
over, no operation does more than append a score or take the adjustments.

What the end of an iteration can come to is said once (`Cycle.Settling`).
-/

namespace Ensemble.Reflection.Cycle

/-- The cycles that can be set up, with limits that are words of 32 bits. -/
inductive Built : Cycle → Prop
  | create (id : Id) (goal : String) {maxIterations : Nat} (iterations : maxIterations ≤ maxWord32)
      (now : Timestamp) : Built (.create id goal maxIterations now)
  | ofSettings (id : Id) (goal : String) {settings : ReflectionSettings}
      (iterations : settings.maxIterations ≤ maxWord32)
      (stalls : settings.stallThreshold ≤ maxWord32) (now : Timestamp) :
      Built (.ofSettings id goal settings now)
  | withStallThreshold {c : Cycle} (built : Built c) {threshold : Nat}
      (stalls : threshold ≤ maxWord32) : Built (c.withStallThreshold threshold)
  | withEvaluator {c : Cycle} (built : Built c) (session : String) :
      Built (c.withEvaluator session)
  | withRubric {c : Cycle} (built : Built c) (rubric : String) : Built (c.withRubric rubric)

/-- A cycle that nothing has happened to. -/
structure Fresh (c : Cycle) : Prop where
  active : c.isActive = true
  unpaused : c.isPaused = false
  uncompleted : c.completedAt = none
  unmet : c.goalMet = false
  unstalled : c.isStalled = false
  stalls : c.consecutiveStalls = 0
  iteration : c.currentIteration = 0
  response : c.lastResponse = none
  budget : 0 < c.maxIterations
  threshold : 0 < c.stallThreshold

/-- A cycle is set up with a budget and a stall threshold of at least one, and nothing done. -/
theorem Built.fresh {c : Cycle} (built : Built c) : c.Fresh := by
  induction built with
  | create id goal _ now =>
    exact ⟨rfl, rfl, rfl, rfl, rfl, rfl, rfl, rfl, Nat.le_max_right _ _,
      Nat.succ_pos _⟩
  | ofSettings id goal _ _ now =>
    exact ⟨rfl, rfl, rfl, rfl, rfl, rfl, rfl, rfl, Nat.le_max_right _ _, Nat.le_max_right _ _⟩
  | withStallThreshold _ _ ih =>
    exact { ih with threshold := Nat.le_max_right _ _ }
  | withEvaluator _ session ih => exact { ih with }
  | withRubric _ rubric ih => exact { ih with }

/-- The limits of a cycle are words of 32 bits, so that counting up to them does not wrap. -/
structure Limited (c : Cycle) : Prop where
  iterations : c.maxIterations ≤ maxWord32
  stalls : c.stallThreshold ≤ maxWord32

/-- A cycle is set up with words of 32 bits as its limits. -/
theorem Built.limited {c : Cycle} (built : Built c) : c.Limited := by
  have one : 1 ≤ maxWord32 := by decide
  induction built with
  | create id goal iterations now =>
    have stalls : ReflectionSettings.defaultStallThreshold ≤ maxWord32 := by decide
    exact ⟨Nat.max_le.2 ⟨iterations, one⟩, stalls⟩
  | ofSettings id goal iterations stalls now =>
    exact ⟨Nat.max_le.2 ⟨iterations, one⟩, Nat.max_le.2 ⟨stalls, one⟩⟩
  | withStallThreshold _ stalls ih => exact ⟨ih.iterations, Nat.max_le.2 ⟨stalls, one⟩⟩
  | withEvaluator _ session ih => exact ⟨ih.iterations, ih.stalls⟩
  | withRubric _ rubric ih => exact ⟨ih.iterations, ih.stalls⟩

/-- Below its budget, a cycle counts its iterations one by one. -/
theorem Limited.nextIteration_eq {c : Cycle} (h : c.Limited)
    (left : c.currentIteration < c.maxIterations) : c.nextIteration = c.currentIteration + 1 :=
  wrap_of_le (Nat.le_trans left h.iterations)

/-- Below its threshold, a cycle counts its stalls one by one. -/
theorem Limited.nextStall_eq {c : Cycle} (h : c.Limited)
    (few : c.consecutiveStalls < c.stallThreshold) : c.nextStall = c.consecutiveStalls + 1 :=
  wrap_of_le (Nat.le_trans few h.stalls)

/-! ## The end of an iteration -/

section Settle

variable (c : Cycle) (response : String) (goalMet : Bool) (now : Timestamp)

/-- Whether a response stalls after the last one that was taken in. -/
def isStall : Bool :=
  (checkStall c.lastResponse response c.stallSimilarity).isStall

/-- The cycle with a response taken in. -/
def answered : Cycle :=
  { c with
    lastSimilarity := (checkStall c.lastResponse response c.stallSimilarity).similarity
    lastResponse := some response }

/-- How many stalls in a row there are with a response. -/
def stallsWith : Nat :=
  if c.isStall response then c.nextStall else 0

/-- What taking in a response can come to. -/
inductive Settling : Decision × Cycle → Prop
  | goalMet (met : goalMet = true) : Settling
      (.goalMet, { c.answered response with goalMet := true, consecutiveStalls := 0 }.finish now)
  | stalled (unmet : goalMet = false) (stall : c.isStall response = true)
      (last : c.stallThreshold ≤ c.nextStall) : Settling
      (.stalled, { c.answered response with
        consecutiveStalls := c.nextStall, isStalled := true }.finish now)
  | exhausted (unmet : goalMet = false)
      (few : c.isStall response = true → c.nextStall < c.stallThreshold)
      (spent : c.maxIterations ≤ c.currentIteration) (adjustments : List String) : Settling
      (.budgetExhausted, { c.answered response with
        consecutiveStalls := c.stallsWith response, adjustments }.finish now)
  | continued (unmet : goalMet = false)
      (few : c.isStall response = true → c.nextStall < c.stallThreshold)
      (left : c.currentIteration < c.maxIterations) (adjustments : List String) : Settling
      (.continue, { c.answered response with
        consecutiveStalls := c.stallsWith response, adjustments })

/-- The stall that reaches the threshold ends the cycle. -/
theorem countStall_of_last {c : Cycle} (last : c.stallThreshold ≤ c.nextStall)
    (adjustment : String) (now : Timestamp) :
    c.countStall adjustment now =
      (.stalled, { c with
        consecutiveStalls := c.nextStall, isStalled := true }.finish now) :=
  if_pos last

/-- A stall below the threshold is counted and answered with advice. -/
theorem countStall_of_few {c : Cycle} (few : c.nextStall < c.stallThreshold)
    (adjustment : String) (now : Timestamp) :
    c.countStall adjustment now =
      (.continue, { c with
        consecutiveStalls := c.nextStall
        adjustments := c.adjustments ++ [adjustment] }) :=
  if_neg (Nat.not_le.2 few)

/-- As long as the stalls are few, the budget decides. -/
theorem chargeBudget_settling
    (few : c.isStall response = true → c.nextStall < c.stallThreshold)
    (adjustments : List String) :
    Settling c response false now ({ c.answered response with
      consecutiveStalls := c.stallsWith response, adjustments }.chargeBudget now) := by
  rcases Nat.lt_or_ge c.currentIteration c.maxIterations with left | spent
  · have kept : Cycle.chargeBudget { c.answered response with
        consecutiveStalls := c.stallsWith response, adjustments } now = (.continue, _) :=
      if_neg (Nat.not_le.2 left)
    rw [kept]
    exact .continued rfl few left adjustments
  · have ended : Cycle.chargeBudget { c.answered response with
        consecutiveStalls := c.stallsWith response, adjustments } now = (.budgetExhausted, _) :=
      if_pos spent
    rw [ended]
    exact .exhausted rfl few spent adjustments

/-- A response that stalls is counted, and as long as the cycle goes on, the budget is charged. -/
theorem settle_of_stall {c : Cycle} {response : String} (stall : c.isStall response = true)
    (few : c.nextStall < c.stallThreshold) (now : Timestamp) :
    c.settle response false now = { c.answered response with
      consecutiveStalls := c.nextStall
      adjustments := c.adjustments ++ [stallAdjustment] }.chargeBudget now := by
  have counted : (c.answered response).countStall stallAdjustment now =
      (.continue, { c.answered response with
        consecutiveStalls := c.nextStall
        adjustments := c.adjustments ++ [stallAdjustment] }) :=
    countStall_of_few (c := c.answered response) few _ now
  rw [isStall] at stall
  simp only [answered] at counted ⊢
  simp only [settle, stall, counted, Bool.false_eq_true, if_false, if_true]

/-- The stall that makes the stalls too many ends the cycle. -/
theorem settle_of_lastStall {c : Cycle} {response : String} (stall : c.isStall response = true)
    (last : c.stallThreshold ≤ c.nextStall) (now : Timestamp) :
    c.settle response false now = (.stalled, { c.answered response with
      consecutiveStalls := c.nextStall, isStalled := true }.finish now) := by
  have counted : (c.answered response).countStall stallAdjustment now =
      (.stalled, { c.answered response with
        consecutiveStalls := c.nextStall, isStalled := true }.finish now) :=
    countStall_of_last (c := c.answered response) last _ now
  rw [isStall] at stall
  simp only [answered] at counted ⊢
  simp only [settle, stall, counted, Bool.false_eq_true, if_false, if_true]

/-- A response that does not stall ends the stalls in a row, and the budget is charged. -/
theorem settle_of_progress {c : Cycle} {response : String} (progress : c.isStall response = false)
    (now : Timestamp) :
    c.settle response false now =
      { c.answered response with consecutiveStalls := 0 }.chargeBudget now := by
  rw [isStall] at progress
  simp only [settle, answered, progress, Bool.false_eq_true, if_false]

/-- `Settling` says everything that taking in a response does. -/
theorem settle_settling : Settling c response goalMet now (c.settle response goalMet now) := by
  cases met : goalMet with
  | true => exact .goalMet rfl
  | false =>
    cases stall : c.isStall response with
    | true =>
      rcases Nat.lt_or_ge (c.nextStall) c.stallThreshold with few | last
      · have charged := c.chargeBudget_settling response now (fun _ => few)
          (c.adjustments ++ [stallAdjustment])
        rw [stallsWith, if_pos stall] at charged
        rw [settle_of_stall stall few]
        exact charged
      · rw [settle_of_lastStall stall last]
        exact .stalled rfl stall last
    | false =>
      have progress : ¬ c.isStall response = true := Bool.eq_false_iff.1 stall
      have charged := c.chargeBudget_settling response now (fun is => absurd is progress)
        c.adjustments
      rw [stallsWith, if_neg progress] at charged
      rw [settle_of_progress stall]
      exact charged

end Settle

/-- An active cycle records the score of an evaluated response, and then takes the response in like
any other. -/
theorem concludeWith_eq_settle {c : Cycle} (active : c.isActive = true) (response : String)
    (evaluation : Evaluation) (model : Option String) (now : Timestamp) :
    ∃ feedback adjustments, c.concludeWith response evaluation model now =
      { c.record evaluation.score evaluation.rationale model now with
        feedback, adjustments }.settle response evaluation.passed now := by
  rw [concludeWith, if_pos active]
  simp only []
  split
  · exact ⟨_, _, rfl⟩
  · exact ⟨_, _, rfl⟩

/-- An active cycle takes in an evaluated response like any other, after changes that do not matter
to how the iteration ends. -/
theorem concludeWith_of_active {c : Cycle} (active : c.isActive = true) (response : String)
    (evaluation : Evaluation) (model : Option String) (now : Timestamp) :
    ∃ history feedback adjustments, c.concludeWith response evaluation model now =
      { c with history, feedback, adjustments }.settle response evaluation.passed now := by
  obtain ⟨feedback, adjustments, taken⟩ :=
    concludeWith_eq_settle active response evaluation model now
  exact ⟨_, feedback, adjustments, taken⟩

/-- The iteration of an inactive cycle cannot be concluded by a verdict either. -/
theorem concludeWith_of_inactive {c : Cycle} (inactive : c.isActive = false) (response : String)
    (evaluation : Evaluation) (model : Option String) (now : Timestamp) :
    c.concludeWith response evaluation model now = (.stopped, c) :=
  if_neg (Bool.eq_false_iff.1 inactive)

/-! ## What concluding an iteration leaves alone -/

/-- The same iteration of the same cycle. -/
structure SameIteration (c c' : Cycle) : Prop where
  id : c'.id = c.id
  currentIteration : c'.currentIteration = c.currentIteration

section Same

variable (c : Cycle) (response : String) (now : Timestamp)

/-- Settling an iteration does not move on to another one. -/
theorem settle_same (goalMet : Bool) : c.SameIteration (c.settle response goalMet now).2 := by
  have settling := c.settle_settling response goalMet now
  generalize c.settle response goalMet now = ended at settling
  cases settling <;> exact ⟨rfl, rfl⟩

/-- Concluding an iteration does not move on to another one. -/
theorem conclude_same : c.SameIteration (c.conclude response now).2 := by
  rw [conclude]
  -- a cycle that is not active is left as it is
  split
  next => exact c.settle_same response now _
  next => exact ⟨rfl, rfl⟩

/-- Concluding with an evaluation does not move on to another iteration. -/
theorem concludeWith_same (evaluation : Evaluation) (model : Option String) :
    c.SameIteration (c.concludeWith response evaluation model now).2 := by
  cases active : c.isActive with
  | false =>
    rw [concludeWith_of_inactive active]
    exact ⟨rfl, rfl⟩
  | true =>
    obtain ⟨history, feedback, adjustments, taken⟩ :=
      concludeWith_of_active active response evaluation model now
    have same :=
      settle_same { c with history, feedback, adjustments } response now evaluation.passed
    rw [taken]
    exact ⟨same.id, same.currentIteration⟩

end Same

/-! ## Running and over -/

/-- A cycle that is running has not met its goal, and its stalls are few. -/
structure Running (c : Cycle) : Prop where
  active : c.isActive = true
  uncompleted : c.completedAt = none
  unmet : c.goalMet = false
  unstalled : c.isStalled = false
  few : c.consecutiveStalls < c.stallThreshold

/-- A cycle that is over is not paused, and it has stalled exactly if its stalls are too many. -/
structure Over (c : Cycle) : Prop where
  inactive : c.isActive = false
  completed : c.completedAt ≠ none
  unpaused : c.isPaused = false
  stalled_iff : c.isStalled = true ↔ c.stallThreshold ≤ c.consecutiveStalls
  exclusive : c.goalMet = true → c.isStalled = false

/-- A fresh cycle is running. -/
theorem Fresh.running {c : Cycle} (h : c.Fresh) : c.Running where
  active := h.active
  uncompleted := h.uncompleted
  unmet := h.unmet
  unstalled := h.unstalled
  few := by rw [h.stalls]; exact h.threshold

/-- Where a decision leaves a cycle: running if it goes on, and over if it does not. -/
inductive Decided : Decision × Cycle → Prop
  | goesOn {c : Cycle} (running : c.Running) : Decided (.continue, c)
  | ends {decision : Decision} {c : Cycle} (terminal : decision.isTerminal = true)
      (closed : c.Over) : Decided (decision, c)

/-- After a decision a cycle is running or over. -/
theorem Decided.running_or_over {ended : Decision × Cycle} (h : Decided ended) :
    ended.2.Running ∨ ended.2.Over := by
  cases h with
  | goesOn running => exact .inl running
  | ends _ closed => exact .inr closed

/-- A cycle that goes on is running. -/
theorem Decided.running {ended : Decision × Cycle} (h : Decided ended)
    (goesOn : ended.1 = .continue) : ended.2.Running := by
  cases h with
  | goesOn running => exact running
  | @ends decision c terminal closed =>
    obtain rfl : decision = .continue := goesOn
    cases terminal

/-- A cycle that does not go on is over. -/
theorem Decided.closed {ended : Decision × Cycle} (h : Decided ended)
    (ends : ended.1 ≠ .continue) : ended.2.Over := by
  cases h with
  | goesOn => exact absurd rfl ends
  | ends _ closed => exact closed

namespace Running

variable {c : Cycle}

/-- However a running cycle is finished before its stalls are too many, it has not stalled. -/
theorem finish (h : c.Running) (now : Timestamp) : (c.finish now).Over where
  inactive := rfl
  completed := Option.some_ne_none _
  unpaused := rfl
  stalled_iff := iff_of_false (Bool.eq_false_iff.1 h.unstalled) (Nat.not_le.2 h.few)
  exclusive := fun _ => h.unstalled

/-- A running cycle that meets its goal is over, and not for a stall. -/
theorem goalMet (h : c.Running) (now : Timestamp) :
    ({ c with goalMet := true, consecutiveStalls := 0 }.finish now).Over where
  inactive := rfl
  completed := Option.some_ne_none _
  unpaused := rfl
  stalled_iff := iff_of_false (Bool.eq_false_iff.1 h.unstalled)
    (Nat.not_le.2 (Nat.zero_lt_of_lt h.few))
  exclusive := fun _ => h.unstalled

/-- The stall that makes the stalls too many ends the cycle as stalled. -/
theorem stalled (h : c.Running) (last : c.stallThreshold ≤ c.nextStall)
    (now : Timestamp) :
    ({ c with
      consecutiveStalls := c.nextStall, isStalled := true }.finish now).Over where
  inactive := rfl
  completed := Option.some_ne_none _
  unpaused := rfl
  stalled_iff := iff_of_true rfl last
  exclusive := fun met => absurd met (Bool.eq_false_iff.1 h.unmet)

/-- Only the count of stalls matters to whether a cycle is running. -/
theorem count (h : c.Running) {stalls : Nat} (few : stalls < c.stallThreshold)
    (adjustments : List String) :
    Running { c with consecutiveStalls := stalls, adjustments } :=
  ⟨h.active, h.uncompleted, h.unmet, h.unstalled, few⟩

/-- Taking note of a response leaves a cycle running. -/
theorem answered (h : c.Running) (response : String) : (c.answered response).Running :=
  ⟨h.active, h.uncompleted, h.unmet, h.unstalled, h.few⟩

/-- The stalls stay below the threshold unless the response is one stall too many. -/
theorem stallsWith_lt (h : c.Running) {response : String}
    (few : c.isStall response = true → c.nextStall < c.stallThreshold) :
    c.stallsWith response < c.stallThreshold := by
  rw [stallsWith]
  split
  next stall => exact few stall
  next => exact Nat.zero_lt_of_lt h.few

/-- Settling an iteration leaves a running cycle decided. -/
theorem settle (h : c.Running) (response : String) (goalMet : Bool) (now : Timestamp) :
    Decided (c.settle response goalMet now) := by
  have settling := c.settle_settling response goalMet now
  generalize c.settle response goalMet now = ended at settling
  have taken := h.answered response
  cases settling with
  | goalMet => exact .ends rfl (taken.goalMet now)
  | stalled _ _ last => exact .ends rfl (taken.stalled last now)
  | exhausted _ few _ adjustments =>
    exact .ends rfl ((taken.count (h.stallsWith_lt few) adjustments).finish now)
  | continued _ few _ adjustments =>
    exact .goesOn (taken.count (h.stallsWith_lt few) adjustments)

/-- A running cycle is running when an iteration has begun. -/
theorem begin (h : c.Running) : c.begin.Running := by
  rw [Cycle.begin, if_pos h.active]
  exact ⟨h.active, h.uncompleted, h.unmet, h.unstalled, h.few⟩

/-- Concluding an iteration leaves a running cycle decided. -/
theorem conclude (h : c.Running) (response : String) (now : Timestamp) :
    Decided (c.conclude response now) := by
  rw [Cycle.conclude, if_pos h.active]
  exact h.settle response _ now

/-- Concluding with an evaluation leaves a running cycle decided. -/
theorem concludeWith (h : c.Running) (response : String) (evaluation : Evaluation)
    (model : Option String) (now : Timestamp) :
    Decided (c.concludeWith response evaluation model now) := by
  obtain ⟨history, feedback, adjustments, taken⟩ :=
    concludeWith_of_active h.active response evaluation model now
  -- an evaluation is recorded before it counts, and records do not touch what running means
  have evaluated : Running { c with history, feedback, adjustments } :=
    ⟨h.active, h.uncompleted, h.unmet, h.unstalled, h.few⟩
  rw [taken]
  exact evaluated.settle response _ now

/-- Giving an iteration back leaves a running cycle decided: it counts as a stall. -/
theorem retry (h : c.Running) (now : Timestamp) : Decided (c.retry now) := by
  have given : Running { c with currentIteration := c.currentIteration - 1 } :=
    ⟨h.active, h.uncompleted, h.unmet, h.unstalled, h.few⟩
  rw [Cycle.retry, if_pos h.active]
  -- the stall that a retry counts may be the last one
  rcases Nat.lt_or_ge (c.nextStall) c.stallThreshold with few | last
  · rw [countStall_of_few (c := { c with currentIteration := c.currentIteration - 1 }) few]
    exact .goesOn (given.count few _)
  · rw [countStall_of_last (c := { c with currentIteration := c.currentIteration - 1 }) last]
    exact .ends rfl (given.stalled last now)

/-- An operation leaves a running cycle running or over. -/
theorem perform (h : c.Running) (op : Operation) :
    (c.perform op).2.Running ∨ (c.perform op).2.Over := by
  cases op with
  | begin => exact .inl h.begin
  | conclude response now => exact (h.conclude response now).running_or_over
  | concludeWith response evaluation model now =>
    exact (h.concludeWith response evaluation model now).running_or_over
  | advance response now => exact (h.begin.conclude response now).running_or_over
  | advanceWith response evaluation model now =>
    exact (h.begin.concludeWith response evaluation model now).running_or_over
  | retry now => exact (h.retry now).running_or_over
  | record | takeAdjustments | resume =>
    exact .inl ⟨h.active, h.uncompleted, h.unmet, h.unstalled, h.few⟩
  | pause =>
    have paused : c.pause = { c with isPaused := true } := if_pos h.active
    refine .inl ?_
    rw [Cycle.perform, paused]
    exact ⟨h.active, h.uncompleted, h.unmet, h.unstalled, h.few⟩
  | stop now =>
    have stopped : c.stop now = c.finish now := if_pos h.active
    refine .inr ?_
    rw [Cycle.perform, stopped]
    exact h.finish now

end Running

/-! ## After the end -/

/-- What an operation makes of a cycle that is over: a score is appended, the adjustments are taken,
and nothing else changes. -/
def afterEnd (c : Cycle) : Operation → Cycle
  | .record score rationale model now =>
    { c with
      history := c.history ++ [⟨c.currentIteration, clampScore score, rationale, model, now⟩] }
  | .takeAdjustments => { c with adjustments := [] }
  | _ => c

/-- Whether an operation asks for a decision. -/
def Operation.asksDecision : Operation → Bool
  | .conclude .. | .concludeWith .. | .advance .. | .advanceWith .. | .retry .. => true
  | _ => false

namespace Over

variable {c : Cycle}

/-- No iteration begins once a cycle is over. -/
theorem begin_eq (h : c.Over) : c.begin = c :=
  if_neg (Bool.eq_false_iff.1 h.inactive)

/-- Nothing is evaluated once a cycle is over. -/
theorem concludeWith_eq (h : c.Over) (response : String) (evaluation : Evaluation)
    (model : Option String) (now : Timestamp) :
    c.concludeWith response evaluation model now = (.stopped, c) :=
  concludeWith_of_inactive h.inactive response evaluation model now

/-- What an operation does to a cycle that is over is what `afterEnd` says. -/
theorem perform_eq (h : c.Over) (op : Operation) : (c.perform op).2 = c.afterEnd op := by
  cases op with
  | begin => exact h.begin_eq
  | conclude response now => exact congrArg Prod.snd (conclude_of_inactive h.inactive response now)
  | concludeWith response evaluation model now =>
    exact congrArg Prod.snd (h.concludeWith_eq response evaluation model now)
  | advance response now =>
    rw [Cycle.perform, Cycle.advance, h.begin_eq]
    exact congrArg Prod.snd (conclude_of_inactive h.inactive response now)
  | advanceWith response evaluation model now =>
    rw [Cycle.perform, Cycle.advanceWith, h.begin_eq]
    exact congrArg Prod.snd (h.concludeWith_eq response evaluation model now)
  | retry now => exact congrArg Prod.snd (retry_of_inactive h.inactive now)
  | record | takeAdjustments => rfl
  | pause => exact if_neg (Bool.eq_false_iff.1 h.inactive)
  | resume =>
    -- It is not paused, so there is nothing to end.
    have paused : c.resume = { c with isPaused := c.isPaused } := congrArg
      (fun isPaused => { c with isPaused }) h.unpaused.symm
    exact paused
  | stop now => exact if_neg (Bool.eq_false_iff.1 h.inactive)

/-- Whoever asks a cycle that is over for a decision is told that it has stopped. -/
theorem stopped (h : c.Over) {op : Operation} (asks : op.asksDecision = true) :
    (c.perform op).1 = .decision .stopped := by
  cases op with
  | conclude response now =>
    rw [Cycle.perform, conclude_of_inactive h.inactive]
    rfl
  | concludeWith response evaluation model now =>
    rw [Cycle.perform, h.concludeWith_eq]
    rfl
  | advance response now =>
    rw [Cycle.perform, Cycle.advance, h.begin_eq, conclude_of_inactive h.inactive]
    rfl
  | advanceWith response evaluation model now =>
    rw [Cycle.perform, Cycle.advanceWith, h.begin_eq, h.concludeWith_eq]
    rfl
  | retry now =>
    rw [Cycle.perform, retry_of_inactive h.inactive]
    rfl
  | begin | record | takeAdjustments | pause | resume | stop => cases asks

/-- A cycle that is over stays over. -/
theorem afterEnd (h : c.Over) (op : Operation) : (c.afterEnd op).Over := by
  cases op with
  | record | takeAdjustments =>
    exact ⟨h.inactive, h.completed, h.unpaused, h.stalled_iff, h.exclusive⟩
  | begin | conclude | concludeWith | advance | advanceWith | retry | pause | resume | stop =>
    exact h

end Over

/-! ## Runs of operations -/

/-- The cycle after operations. -/
def after (c : Cycle) (ops : List Operation) : Cycle :=
  ops.foldl (fun c op => (c.perform op).2) c

/-- Whatever is done, a cycle is running or over. -/
theorem running_or_over_after {c : Cycle} (h : c.Running ∨ c.Over) (ops : List Operation) :
    (c.after ops).Running ∨ (c.after ops).Over := by
  induction ops generalizing c with
  | nil => exact h
  | cons op rest ih =>
    have next : (c.perform op).2.Running ∨ (c.perform op).2.Over := by
      rcases h with running | closed
      · exact running.perform op
      · rw [closed.perform_eq]
        exact .inr (closed.afterEnd op)
    exact ih next

/-- Whatever is done to a cycle that is over, it stays over, and at most its history and its
adjustments change. -/
theorem Over.after {c : Cycle} (h : c.Over) (ops : List Operation) :
    (c.after ops).Over ∧ ∃ history adjustments, c.after ops = { c with history, adjustments } := by
  induction ops generalizing c with
  | nil => exact ⟨h, _, _, rfl⟩
  | cons op rest ih =>
    obtain ⟨closed, history, adjustments, same⟩ := ih (h.afterEnd op)
    have first : c.after (op :: rest) = (c.afterEnd op).after rest :=
      congrArg (Cycle.after · rest) (h.perform_eq op)
    rw [first]
    refine ⟨closed, history, adjustments, same.trans ?_⟩
    cases op <;> rfl

/--
After any operations on a cycle that was set up, its flags agree: it is active exactly as long as it
is not completed, an active cycle has neither met its goal nor stalled, it has stalled exactly if
its stalls have reached the threshold, it never has both met its goal and stalled, and only an
active cycle is paused.  Once it is inactive it stays so: it answers every request for a decision
that it has stopped, and operations append scores and take adjustments and change nothing else.
-/
theorem flags_agree {c : Cycle} (built : Built c) (ops : List Operation) :
    let now := c.after ops
    (now.isActive = true ↔ now.completedAt = none) ∧
    (now.isActive = true →
      now.goalMet = false ∧ now.isStalled = false ∧ now.consecutiveStalls < now.stallThreshold) ∧
    (now.isStalled = true ↔ now.stallThreshold ≤ now.consecutiveStalls) ∧
    ¬ (now.goalMet = true ∧ now.isStalled = true) ∧
    (now.isPaused = true → now.isActive = true) ∧
    (now.isActive = false → ∀ more,
      let later := now.after more
      later.isActive = false ∧
      later = { now with history := later.history, adjustments := later.adjustments } ∧
      ∀ op, (op.asksDecision = true → (later.perform op).1 = .decision .stopped) ∧
        (later.perform op).2 =
          match op with
          | .record score rationale model time =>
            { later with history := later.history ++
              [⟨later.currentIteration, clampScore score, rationale, model, time⟩] }
          | .takeAdjustments => { later with adjustments := [] }
          | _ => later) := by
  intro now
  -- A cycle runs or is over, and is never anything in between.
  rcases running_or_over_after (.inl built.fresh.running) ops with running | closed
  · have running : now.Running := running
    refine ⟨iff_of_true running.active running.uncompleted,
      fun _ => ⟨running.unmet, running.unstalled, running.few⟩,
      iff_of_false (Bool.eq_false_iff.1 running.unstalled) (Nat.not_le.2 running.few),
      fun both => Bool.eq_false_iff.1 running.unmet both.1, fun _ => running.active,
      fun inactive => ?_⟩
    exact absurd running.active (Bool.eq_false_iff.1 inactive)
  · have closed : now.Over := closed
    refine ⟨iff_of_false (Bool.eq_false_iff.1 closed.inactive) closed.completed,
      fun active => absurd active (Bool.eq_false_iff.1 closed.inactive), closed.stalled_iff,
      fun both => Bool.eq_false_iff.1 (closed.exclusive both.1) both.2,
      fun paused => absurd paused (Bool.eq_false_iff.1 closed.unpaused), fun _ more => ?_⟩
    obtain ⟨closed', history, adjustments, same⟩ := closed.after more
    refine ⟨closed'.inactive, ?_, fun op => ⟨closed'.stopped, ?_⟩⟩
    · rw [same]
    · rw [closed'.perform_eq]
      cases op <;> rfl

/-- A cycle that two equal responses end as stalled stays so, whatever is tried on it afterwards. -/
theorem stalled_stays_stalled :
    let time : Timestamp := ⟨0, 0⟩
    let c := (Cycle.create ⟨1⟩ "goal" 5 time).withStallThreshold 1
    let ops : List Operation :=
      [.begin, .conclude "same" time, .pause, .resume, .advance "same" time]
    let more : List Operation :=
      [.pause, .retry time, .record .one "late" none time, .takeAdjustments]
    let now := c.after ops
    let later := now.after more
    Built c ∧ now.isActive = false ∧
      (now.isStalled = true ∧ now.stallThreshold ≤ now.consecutiveStalls ∧ now.goalMet = false) ∧
      later = { now with history := later.history, adjustments := later.adjustments } ∧
      later.history.map (·.rationale) = ["late"] ∧
      (later.perform (.advance "other" time)).1 = .decision .stopped := by
  intro time c ops more now later
  have built : Built c := .withStallThreshold (.create ⟨1⟩ "goal" (by decide) time) (by decide)
  have inactive : now.isActive = false := by decide
  have stalled : now.isStalled = true := by decide
  obtain ⟨-, -, stalled_iff, exclusive, -, ended⟩ := flags_agree built ops
  have unmet : now.goalMet = false := Bool.eq_false_iff.2 fun met => exclusive ⟨met, stalled⟩
  obtain ⟨-, same, frozen⟩ := ended inactive more
  exact ⟨built, inactive, ⟨stalled, stalled_iff.1 stalled, unmet⟩, same, by decide,
    (frozen (.advance "other" time)).1 rfl⟩

end Ensemble.Reflection.Cycle
