import Ensemble.Reflection.Prompt

/-!
# Taking an iteration from a cycle

Whoever works on a cycle takes one iteration after another from it.  A cycle that is over or paused
has none to give, and says how the work on it ends.
-/

namespace Ensemble.Reflection

/-- How the work on a cycle ended. -/
inductive LoopOutcome where
  | goalMet
  | stalled
  | budgetExhausted
  | stopped
  /-- The cycle is paused; the work may go on later. -/
  | paused
  /-- The group has another cycle by now, or none. -/
  | superseded
  deriving DecidableEq, Repr

/-- How a decision that ends a cycle ends the work on it. -/
def LoopOutcome.ofDecision : Decision → LoopOutcome
  | .goalMet => goalMet
  | .stalled => stalled
  | .budgetExhausted => budgetExhausted
  | .continue => stopped
  | .stopped => stopped

/-- An iteration that was begun: its prompt, and who evaluates the response. -/
structure Iteration where
  prompt : String
  evaluator : Option String
  deriving DecidableEq, Repr

/--
Begins an iteration, unless the cycle is over or paused.  The adjustments leave the cycle together
with the prompt that was made from it.
-/
def Cycle.takeIteration (c : Cycle) : Except LoopOutcome Iteration × Cycle :=
  if !c.isActive then (.error (.ofDecision (c.outcome?.getD .stopped)), c)
  else if c.isPaused then (.error .paused, c)
  else (.ok ⟨c.iterationPrompt, c.evaluator⟩, c.dropAdjustments.begin)

end Ensemble.Reflection
