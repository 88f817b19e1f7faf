import Ensemble.Hub.Step

/-!
# Calls

A call sends a prompt to a session and waits for the response.  It opens a turn, and the outcome of
that turn is the result of the call.

A call may have a limit.  When the limit passes while the turn is open, the caller asks the hub to
abort what is open on the session, and then the call has timed out.
-/

namespace Ensemble

/-- How far a call has come. -/
inductive Call where
  /-- The hub has been asked to open the turn. -/
  | opening (session : String)
  /-- The turn is open. -/
  | waiting (session : String) (turn : OpenedTurn)
  /-- The limit has passed, and the hub has been asked to abort. -/
  | stopping (limit : Span)
  | over (result : Attempt String)

namespace Call

/-- What the hub is asked first. -/
def request (session prompt : String) (suppressPrompt : Bool) : HubRequest :=
  .begin session prompt suppressPrompt

/-- The call after the hub has replied. -/
def hearReply (c : Call) (reply : Attempt HubAnswer) : Call :=
  match c, reply with
  | .opening session, .ok (.opened turn) => .waiting session turn
  | .opening _, .error failure => .over (.error failure)
  | .stopping limit, .ok _ => .over (.error (.timeout limit))
  | .stopping _, .error failure => .over (.error failure)
  | c, _ => c

/-- The call after its turn has ended. -/
def hearOutcome (c : Call) (outcome : Outcome) : Call :=
  match c with
  | .waiting session _ => .over (outcome.toAttempt session)
  | c => c

/-- The call after the hub has closed without a word. -/
def hearClosed (c : Call) : Call :=
  match c with
  | .over result => .over result
  | _ => .over (.error .hubClosed)

/-- The call after its limit has passed, and what the hub is asked then. -/
def expire (c : Call) (limit : Span) : Call × Option HubRequest :=
  match c with
  | .waiting session _ => (.stopping limit, some (.abort session))
  | c => (c, none)

/-- The result of a call that is over. -/
def result? : Call → Option (Attempt String)
  | .over result => some result
  | _ => none

/-- Whether a call waits for the turn of a number. -/
def waitsFor (c : Call) (number : Nat) : Bool :=
  match c with
  | .waiting _ turn => turn.number == number
  | _ => false

end Call

end Ensemble
