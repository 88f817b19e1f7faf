import Ensemble.Session.Basic

/-!
# Turns

A turn sends one prompt to the agent of a session and ends with one outcome.  While it is open the
agent streams events; two kinds of them end it.
-/

namespace Ensemble

/-- What an agent streams while a turn is open. -/
inductive StreamEvent where
  | content (chunk : String)
  | reasoning (chunk : String)
  | toolStarted (tool : String)
  | toolFinished (tool : String) (output : Option String)
  /-- The agent has finished the turn. -/
  | idle
  /-- The agent reports a fault that ends the turn. -/
  | fault (message : String)
  deriving DecidableEq, Repr

/-- Whether an event ends the turn it belongs to. -/
def StreamEvent.isTerminal : StreamEvent → Bool
  | idle => true
  | fault _ => true
  | _ => false

/-- How a turn ended. -/
inductive Outcome where
  | completed (response : String)
  | failed (message : String)
  | cancelled
  deriving DecidableEq, Repr

namespace Outcome

/-- Whether a turn ended with a response. -/
def isCompleted : Outcome → Bool
  | completed _ => true
  | _ => false

/-- The response of a turn, or the failure it ended with. -/
def toAttempt (session : String) : Outcome → Attempt String
  | completed response => .ok response
  | failed message => .error (.turnFailed session message)
  | cancelled => .error (.turnCancelled session)

end Outcome

end Ensemble
