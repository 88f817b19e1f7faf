import Ensemble.Reflection.Cycle

/-!
# Prompts of a reflection cycle

The prompt of the first iteration, the prompt of every later one, and the prompt that asks an
evaluator for its verdict.  How demanding the evaluator is asked to be depends on the phase of the
iteration in the budget.
-/

namespace Ensemble.Reflection

/-- Where an iteration stands in the budget of its cycle. -/
inductive Phase where
  | early
  | middle
  | final
  deriving DecidableEq, Repr

/-- The phase of an iteration. -/
def phaseOf (iteration maxIterations : Nat) : Phase :=
  if maxIterations ≤ iteration then .final
  else if wrap maxWord32 (iteration * 2) ≤ maxIterations then .early
  else .middle

/-- How the evaluator is asked to judge in a phase. -/
def Phase.stance : Phase → String
  | early =>
    "Be demanding. This is an early iteration: you must identify at least one concrete flaw " ++
      "or missing piece, and you must not answer PASS yet."
  | middle => "Be demanding but fair. Answer PASS only if the criteria are fully met."
  | final =>
    "This is the final iteration. Be lenient: answer PASS if the work substantially meets " ++
      "the criteria, even with minor imperfections."

namespace Cycle

/-- What responses are judged by. -/
def criteria (c : Cycle) : String :=
  c.rubric.getD c.goal

/-- The request to report completion with the mark. -/
def markRequest (withMark : Bool) : String :=
  if withMark then
    "\n\nOnly when the goal is genuinely and fully achieved, end your response with " ++
      completionMark ++ " on a line by itself."
  else ""

/-- The prompt of the first iteration. -/
def initialPrompt (c : Cycle) (withMark : Bool) : String :=
  "Goal: " ++ c.goal ++
    s!"\n\nThis is iteration 1 of at most {c.maxIterations}. Work toward the goal." ++
    markRequest withMark

/-- The part of a prompt that passes on the feedback of the evaluator. -/
def feedbackPart (c : Cycle) : String :=
  match c.feedback with
  | some feedback => "\n\nEvaluator feedback:\n" ++ feedback
  | none => ""

/-- The part of a prompt that passes on the adjustments. -/
def adjustmentsPart (c : Cycle) : String :=
  if c.adjustments.isEmpty then ""
  else "\n\nAdjustments:" ++ String.join (c.adjustments.map fun a => "\n- " ++ a)

/-- The prompt of an iteration after the first. -/
def followUpPrompt (c : Cycle) (withMark : Bool) : String :=
  s!"Iteration {c.nextIteration} of {c.maxIterations}.\n\nEvaluation criteria: " ++
    c.criteria ++
    "\n\nThe goal is NOT complete. Treat it as not complete unless it is genuinely, " ++
    "fully achieved. Review your previous output critically and improve it." ++
    c.feedbackPart ++ c.adjustmentsPart ++ markRequest withMark

/-- The prompt of the next iteration. -/
def iterationPrompt (c : Cycle) : String :=
  if c.currentIteration == 0 then c.initialPrompt c.usesMark else c.followUpPrompt c.usesMark

/-- The prompt that asks an evaluator for its verdict on a response. -/
def evaluatorPrompt (c : Cycle) (response : String) : String :=
  "You are evaluating work toward this goal.\n\nCriteria: " ++ c.criteria ++
    s!"\n\nIteration {c.currentIteration} of {c.maxIterations}. " ++
    (phaseOf c.currentIteration c.maxIterations).stance ++
    "\n\nWork to evaluate:\n---\n" ++ response ++
    "\n---\n\nReply with either:\nPASS\nor\nFAIL: <what is wrong and how to fix it>\n\n" ++
    "Then add:\nSCORE: <number between 0.0 and 1.0>\nRATIONALE: <one paragraph>"

end Cycle

end Ensemble.Reflection
