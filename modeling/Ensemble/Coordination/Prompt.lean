import Ensemble.Failure
import Ensemble.Organization.Basic

/-!
# Prompts of coordinated work

The texts that pass work between the members of a group: a task with the persona of the member who
gets it, the input of the next member of a chain, the request to plan, and the request to combine
the results of the workers.
-/

namespace Ensemble.Coordination

/-- What came of a prompt to a member. -/
structure MemberResult where
  session : String
  result : Attempt String

/-- What a member of a chain answered. -/
structure Link where
  session : String
  response : String
  deriving DecidableEq, Repr

/-- A task after the persona of the worker, if there is one that is not blank. -/
def withPersona (persona : Option String) (task : String) : String :=
  match persona with
  | none => task
  | some persona =>
    let trimmed := Text.trim persona.toList
    if trimmed.isEmpty then task else String.ofList trimmed ++ "\n\n" ++ task

/-- The input of the member of a chain after the one who answered last. -/
def chainPrompt (request : String) (previous : Link) : String :=
  request ++ "\n\nOutput from the previous step (" ++ previous.session ++ "):\n" ++
    previous.response

/-- What an orchestrator is told to do unless its group says otherwise. -/
def defaultInstructions : String :=
  "You coordinate a team of worker agents. " ++
    "Break the request into focused tasks and delegate them."

/-- The line that offers a worker to the orchestrator. -/
def workerLine (worker : Member) : String :=
  "\n- " ++ worker.session ++
    match worker.preferredModel with
    | some model => " (" ++ model ++ ")"
    | none => ""

/-- How to delegate a task. -/
def delegationGuide : String :=
  "\n\nTo delegate, write one block per task:\n@worker:NAME\ntask description\n@end\n" ++
    "Anything outside these blocks is kept as your own notes."

/-- The request to plan, for an orchestrator. -/
def planningPrompt (instructions : Option String) (request : String) (workers : List Member) :
    String :=
  instructions.getD defaultInstructions ++ "\n\nAvailable workers:" ++
    String.join (workers.map workerLine) ++ delegationGuide ++ "\n\nRequest:\n" ++ request

/-- The part of a request to combine that passes on a result. -/
def resultPart (result : MemberResult) : String :=
  "\n\n### " ++ result.session ++ "\n" ++
    match result.result with
    | .ok response => response
    | .error failure => "FAILED: " ++ failure.message

/-- The request to combine the results of the workers, for an orchestrator. -/
def combiningPrompt (request : String) (results : List MemberResult) : String :=
  "Original request:\n" ++ request ++ "\n\nWorker results:" ++
    String.join (results.map resultPart) ++
    "\n\nCombine these results into one answer to the original request."

end Ensemble.Coordination
