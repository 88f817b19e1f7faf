import Ensemble.Id
import Ensemble.Number.Shortest
import Ensemble.Number.Word
import Ensemble.Reflection.Similarity
import Ensemble.Reflection.Verdict
import Ensemble.Settings
import Ensemble.Time.Timestamp

/-!
# Reflection cycles

A cycle repeats an iteration toward a goal until the goal is met, the responses stall, or the budget
of iterations is used up.  It can also be stopped, and paused between iterations.

An iteration is begun and then concluded with its response, or given back if it failed before it had
one.  The goal is met by a marker in the response or, if an evaluator is attached, by its verdict.
What went wrong in an iteration is held as an *adjustment*, to be told to the agent with the next
prompt.
-/

namespace Ensemble.Reflection

/-- The line with which an agent reports that the goal is met. -/
def completionMark : String := "[[COMPLETE]]"

/-- Whether one of the lines of a text is the completion mark. -/
def reportsCompletion (text : String) : Bool :=
  (Text.lines text.toList).any fun line => Text.trim line == completionMark.toList

/-! ## The trend of the scores -/

/-- How the last score compares with the one before it. -/
inductive Trend where
  | improving
  | degrading
  | stable
  deriving DecidableEq, Repr

/-- The name of a trend. -/
def Trend.name : Trend → String
  | improving => "improving"
  | degrading => "degrading"
  | stable => "stable"

/-- The trend of a history of scores, the oldest first. -/
def trendOf (scores : List Binary64) (threshold : Binary64) : Trend :=
  match scores.reverse with
  | latest :: previous :: _ =>
    let change := latest.sub previous
    if threshold.lt change then .improving
    else if change.lt threshold.neg then .degrading
    else .stable
  | _ => .stable

/-! ## Cycles -/

/-- An evaluation in the history of a cycle. -/
structure ScoreRecord where
  iteration : Nat
  score : Binary64
  rationale : String
  evaluatorModel : Option String
  recordedAt : Timestamp
  deriving DecidableEq, Repr

/-- What follows from the end of an iteration. -/
inductive Decision where
  | continue
  | goalMet
  | stalled
  | budgetExhausted
  /-- The cycle was stopped, or was over before. -/
  | stopped
  deriving DecidableEq, Repr

/-- The name of a decision. -/
def Decision.name : Decision → String
  | .continue => "continue"
  | goalMet => "goal_met"
  | stalled => "stalled"
  | budgetExhausted => "budget_exhausted"
  | stopped => "stopped"

/-- Whether a decision ends the cycle. -/
def Decision.isTerminal : Decision → Bool
  | .continue => false
  | _ => true

/-- A cycle of iterations toward a goal. -/
structure Cycle where
  /-- Tells the cycle apart from one that replaces it. -/
  id : Id
  goal : String
  /-- The criteria of evaluation, in place of the goal. -/
  rubric : Option String
  maxIterations : Nat
  currentIteration : Nat
  isActive : Bool
  isPaused : Bool
  goalMet : Bool
  isStalled : Bool
  consecutiveStalls : Nat
  stallThreshold : Nat
  stallSimilarity : Binary64
  trendThreshold : Binary64
  lastSimilarity : Binary64
  history : List ScoreRecord
  /-- The session that evaluates responses. -/
  evaluator : Option String
  feedback : Option String
  /-- What the agent is to be told with the next prompt. -/
  adjustments : List String
  lastResponse : Option String
  startedAt : Timestamp
  completedAt : Option Timestamp
  deriving DecidableEq, Repr

namespace Cycle

/-- A new cycle with at least one iteration. -/
def create (id : Id) (goal : String) (maxIterations : Nat) (now : Timestamp) : Cycle where
  id := id
  goal := goal
  rubric := none
  maxIterations := max maxIterations 1
  currentIteration := 0
  isActive := true
  isPaused := false
  goalMet := false
  isStalled := false
  consecutiveStalls := 0
  stallThreshold := ReflectionSettings.defaultStallThreshold
  stallSimilarity := ReflectionSettings.defaultStallSimilarity
  trendThreshold := ReflectionSettings.defaultTrendThreshold
  lastSimilarity := .zero
  history := []
  evaluator := none
  feedback := none
  adjustments := []
  lastResponse := none
  startedAt := now
  completedAt := none

/-- A new cycle with configured limits. -/
def ofSettings (id : Id) (goal : String) (settings : ReflectionSettings) (now : Timestamp) :
    Cycle :=
  { create id goal settings.maxIterations now with
    stallThreshold := max settings.stallThreshold 1
    stallSimilarity := settings.stallSimilarity
    trendThreshold := settings.trendThreshold }

/-- The cycle with another stall threshold, at least one. -/
def withStallThreshold (c : Cycle) (threshold : Nat) : Cycle :=
  { c with stallThreshold := max threshold 1 }

/-- The cycle with a session that evaluates its responses. -/
def withEvaluator (c : Cycle) (session : String) : Cycle :=
  { c with evaluator := some session }

/-- The cycle with criteria of its own. -/
def withRubric (c : Cycle) (rubric : String) : Cycle :=
  { c with rubric := some rubric }

/-- Whether the goal is met by the completion mark, since no evaluator is attached. -/
def usesMark (c : Cycle) : Bool :=
  c.evaluator.isNone

/-- The trend of the scores of a cycle. -/
def trend (c : Cycle) : Trend :=
  trendOf (c.history.map (·.score)) c.trendThreshold

/-- The last score of a cycle. -/
def lastScore (c : Cycle) : Option Binary64 :=
  c.history.getLast?.map (·.score)

/-! ## Ending a cycle -/

/-- The cycle, over. -/
def finish (c : Cycle) (now : Timestamp) : Cycle :=
  { c with isActive := false, isPaused := false, completedAt := some now }

/-- Pauses an active cycle after its iteration. -/
def pause (c : Cycle) : Cycle :=
  if c.isActive then { c with isPaused := true } else c

/-- Ends a pause. -/
def resume (c : Cycle) : Cycle :=
  { c with isPaused := false }

/-- Stops an active cycle. -/
def stop (c : Cycle) (now : Timestamp) : Cycle :=
  if c.isActive then c.finish now else c

/-- How a cycle ended; none while it is active. -/
def outcome? (c : Cycle) : Option Decision :=
  if c.isActive then none
  else if c.goalMet then some .goalMet
  else if c.isStalled then some .stalled
  else if c.maxIterations ≤ c.currentIteration then some .budgetExhausted
  else some .stopped

/-! ## Iterations -/

/-- The adjustment after a response that stalls. -/
def stallAdjustment : String :=
  "Your last response was nearly identical to the one before it. " ++
    "Take a clearly different approach."

/-- The adjustment after an iteration that failed. -/
def retryAdjustment : String :=
  "The previous attempt at this iteration failed before finishing. Try again."

/-- The adjustment after a score that fell. -/
def qualityAdjustment (previous latest : Binary64) : String :=
  "Quality dropped from " ++ String.ofList (previous.fixed 2) ++ " to " ++
    String.ofList (latest.fixed 2) ++ ". Revisit what changed since the previous iteration."

/-- The cycle with one more adjustment. -/
def adjust (c : Cycle) (adjustment : String) : Cycle :=
  { c with adjustments := c.adjustments ++ [adjustment] }

/-- The number of the next iteration, in a word of 32 bits. -/
def nextIteration (c : Cycle) : Nat :=
  wrap maxWord32 (c.currentIteration + 1)

/-- The number of stalls in a row after one more, in a word of 32 bits. -/
def nextStall (c : Cycle) : Nat :=
  wrap maxWord32 (c.consecutiveStalls + 1)

/-- Begins the next iteration of an active cycle. -/
def begin (c : Cycle) : Cycle :=
  if c.isActive then { c with currentIteration := c.nextIteration } else c

/-- Counts a stall; with the last one that is allowed the cycle ends. -/
def countStall (c : Cycle) (adjustment : String) (now : Timestamp) : Decision × Cycle :=
  let c := { c with consecutiveStalls := c.nextStall }
  if c.stallThreshold ≤ c.consecutiveStalls then
    (.stalled, { c with isStalled := true }.finish now)
  else (.continue, c.adjust adjustment)

/-- Ends a cycle that has used up its iterations. -/
def chargeBudget (c : Cycle) (now : Timestamp) : Decision × Cycle :=
  if c.maxIterations ≤ c.currentIteration then (.budgetExhausted, c.finish now)
  else (.continue, c)

/-- Takes in the response of an iteration. -/
def settle (c : Cycle) (response : String) (goalMet : Bool) (now : Timestamp) : Decision × Cycle :=
  let check := checkStall c.lastResponse response c.stallSimilarity
  let c := { c with lastSimilarity := check.similarity, lastResponse := some response }
  if goalMet then
    (.goalMet, { c with goalMet := true, consecutiveStalls := 0 }.finish now)
  else if check.isStall then
    match c.countStall stallAdjustment now with
    | (.continue, c) => c.chargeBudget now
    | ended => ended
  else { c with consecutiveStalls := 0 }.chargeBudget now

/-- Concludes the iteration of an active cycle; the completion mark meets the goal. -/
def conclude (c : Cycle) (response : String) (now : Timestamp) : Decision × Cycle :=
  if c.isActive then c.settle response (reportsCompletion response) now else (.stopped, c)

/-- Appends a score to the history of a cycle. -/
def record (c : Cycle) (score : Binary64) (rationale : String) (model : Option String)
    (now : Timestamp) : Cycle :=
  { c with
    history := c.history ++ [⟨c.currentIteration, clampScore score, rationale, model, now⟩] }

/-- Concludes the iteration of an active cycle with the verdict of an evaluator. -/
def concludeWith (c : Cycle) (response : String) (evaluation : Evaluation) (model : Option String)
    (now : Timestamp) : Decision × Cycle :=
  if c.isActive then
    let previous? := c.lastScore
    let c := c.record evaluation.score evaluation.rationale model now
    let c := { c with feedback := if evaluation.passed then none else some evaluation.rationale }
    let c :=
      match c.trend, previous? with
      | .degrading, some previous => c.adjust (qualityAdjustment previous evaluation.score)
      | _, _ => c
    c.settle response evaluation.passed now
  else (.stopped, c)

/-- Gives back the iteration of an active cycle and counts a stall. -/
def retry (c : Cycle) (now : Timestamp) : Decision × Cycle :=
  if c.isActive then
    { c with currentIteration := c.currentIteration - 1 }.countStall retryAdjustment now
  else (.stopped, c)

/-- Begins an iteration and concludes it. -/
def advance (c : Cycle) (response : String) (now : Timestamp) : Decision × Cycle :=
  c.begin.conclude response now

/-- Begins an iteration and concludes it with the verdict of an evaluator. -/
def advanceWith (c : Cycle) (response : String) (evaluation : Evaluation) (model : Option String)
    (now : Timestamp) : Decision × Cycle :=
  c.begin.concludeWith response evaluation model now

/-- The cycle without its adjustments. -/
def dropAdjustments (c : Cycle) : Cycle :=
  { c with adjustments := [] }

/-! ## Operations as data -/

/-- An operation on a cycle. -/
inductive Operation where
  | begin
  | conclude (response : String) (now : Timestamp)
  | concludeWith (response : String) (evaluation : Evaluation) (model : Option String)
      (now : Timestamp)
  | advance (response : String) (now : Timestamp)
  | advanceWith (response : String) (evaluation : Evaluation) (model : Option String)
      (now : Timestamp)
  | retry (now : Timestamp)
  | record (score : Binary64) (rationale : String) (model : Option String) (now : Timestamp)
  | takeAdjustments
  | pause
  | resume
  | stop (now : Timestamp)
  deriving DecidableEq, Repr

/-- What an operation on a cycle answers. -/
inductive Answer where
  | done
  | iteration (number : Nat)
  | decision (decision : Decision)
  | trend (trend : Trend)
  | adjustments (adjustments : List String)
  deriving DecidableEq, Repr

/-- Puts a decision into the form common to all operations. -/
def Answer.ofDecision (ended : Decision × Cycle) : Answer × Cycle :=
  (.decision ended.1, ended.2)

/-- Runs an operation. -/
def perform (c : Cycle) : Operation → Answer × Cycle
  | .begin => (.iteration c.begin.currentIteration, c.begin)
  | .conclude response now => Answer.ofDecision (c.conclude response now)
  | .concludeWith response evaluation model now =>
    Answer.ofDecision (c.concludeWith response evaluation model now)
  | .advance response now => Answer.ofDecision (c.advance response now)
  | .advanceWith response evaluation model now =>
    Answer.ofDecision (c.advanceWith response evaluation model now)
  | .retry now => Answer.ofDecision (c.retry now)
  | .record score rationale model now =>
    let c := c.record score rationale model now
    (.trend c.trend, c)
  | .takeAdjustments => (.adjustments c.adjustments, c.dropAdjustments)
  | .pause => (.done, c.pause)
  | .resume => (.done, c.resume)
  | .stop now => (.done, c.stop now)

/-! ## Summaries -/

/-- A length of time in minutes and seconds; a negative one counts as none. -/
def durationText (nanos : Int) : String :=
  let seconds := (nanos / 1000000000).toNat
  if 60 ≤ seconds then s!"{seconds / 60}m {seconds % 60}s" else s!"{seconds}s"

/-- A one-line account of a cycle for the operator. -/
def summary (c : Cycle) (now : Timestamp) : String :=
  let duration := durationText ((c.completedAt.getD now).since c.startedAt)
  let score :=
    match c.lastScore with
    | some score => "last score " ++ String.ofList (score.fixed 2)
    | none => "no score"
  let n := c.currentIteration
  let plural := if n == 1 then "" else "s"
  match c.outcome? with
  | none => s!"Reflection in progress: iteration {n} of {c.maxIterations} ({duration}, {score})."
  | some .goalMet => s!"Goal met after {n} iteration{plural} in {duration} ({score})."
  | some .stalled =>
    s!"Stalled after {n} iteration{plural} in {duration}: responses stopped changing ({score})."
  | some .budgetExhausted =>
    s!"Iteration budget exhausted ({n}/{c.maxIterations}) in {duration} " ++
      s!"without meeting the goal ({score})."
  | some _ => s!"Stopped after {n} iteration{plural} in {duration} ({score})."

/-! ## Inactive cycles -/

/-- An inactive cycle cannot be concluded. -/
theorem conclude_of_inactive {c : Cycle} (h : c.isActive = false) (response : String)
    (now : Timestamp) : c.conclude response now = (.stopped, c) := by
  simp [conclude, h]

/-- An iteration of an inactive cycle cannot be given back. -/
theorem retry_of_inactive {c : Cycle} (h : c.isActive = false) (now : Timestamp) :
    c.retry now = (.stopped, c) := by
  simp [retry, h]

end Cycle

end Ensemble.Reflection
