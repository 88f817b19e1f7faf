import Ensemble.Agent
import Ensemble.Watchdog

/-!
# The hub: what it takes in and what it gives out

The hub owns the turn engine.  Everybody who wants something of it sends a message, and the hub
handles one message after the other.  Handling a message changes the hub and has *effects*: replies
to callers, outcomes for those who wait on a turn, events for an observer, and orders to agents.
-/

namespace Ensemble

/-- What a caller asks of the hub. -/
inductive HubRequest where
  | create (session model : String)
  | restore (session : Session)
  | close (session : String)
  | setModel (session model : String)
  /-- Open a turn now; the prompt may be left out of the transcript. -/
  | begin (session prompt : String) (suppressPrompt : Bool)
  /-- Open a turn now, or queue the prompt behind the open turn. -/
  | submit (session prompt : String)
  | complete (session : String) (ticket : Nat) (outcome : Outcome)
  | abort (session : String)
  | nextGeneration (session : String)
  | postNotice (session text : String)
  | snapshot (session : String)
  | list
  /-- Recover the turns that are stuck at a time, which need not be the present. -/
  | scan (time : Timestamp) (settings : WatchdogSettings) (multiAgent : List String)
  deriving DecidableEq, Repr

/-- A turn that was opened for somebody: its ticket, and the number its outcome is told under. -/
structure OpenedTurn where
  ticket : Nat
  number : Nat
  deriving DecidableEq, Repr

/-- What the hub replies to a caller. -/
inductive HubAnswer where
  | done
  | session (session : Session)
  | sessions (sessions : List Session)
  | opened (turn : OpenedTurn)
  | queued (depth : Nat)
  | changed (changed : Bool)
  | generation (number : Nat)
  | recovered (turns : List StuckTurn)
  deriving DecidableEq, Repr

/-- A message to the hub. -/
inductive HubMessage where
  /-- A request of a caller. -/
  | request (caller : Nat) (request : HubRequest)
  /-- An event that an agent streamed in the turn with the given ticket. -/
  | streamed (session : String) (ticket : Nat) (event : StreamEvent)
  /-- The last message that the hub handles. -/
  | shutdown
  deriving DecidableEq, Repr

/-- What an observer of the hub is told about a session. -/
inductive HubEvent where
  | created
  | closed
  | started (ticket : Nat)
  | completed (ticket : Nat) (outcome : Outcome)
  | aborted
  | queued (depth : Nat)
  /-- An event or a completion came for a turn that is not open. -/
  | stale (ticket : Nat)
  | recovered (elapsed timeout : Span)
  | noticed (text : String)
  deriving DecidableEq, Repr

/-- A turn as agents see it. -/
structure TurnLabel where
  session : String
  model : String
  ticket : Nat
  deriving DecidableEq, Repr

/-- What the hub does to its surroundings. -/
inductive HubEffect where
  /-- Tells the observer. -/
  | observe (session : String) (event : HubEvent)
  /-- Gives the agent of a turn its prompt; an immediate agent has answered already. -/
  | ask (turn : TurnLabel) (prompt : String)
  /-- Orders the agent of a session to stop. -/
  | stop (session : String)
  /-- Tells the outcome of a turn to whoever waits for it. -/
  | signal (signal : Signal)
  /-- Replies to a caller. -/
  | reply (caller : Nat) (answer : Attempt HubAnswer)

/-- The hub. -/
structure Hub where
  engine : Engine
  agents : Agents
  /-- How many turns were opened. -/
  opened : Nat

namespace Hub

/-- A hub without sessions. -/
def start (agents : Agents) : Hub :=
  ⟨.empty, agents, 0⟩

/-- The session of a name. -/
def session? (h : Hub) (name : String) : Option Session :=
  h.engine.session? name

end Hub

end Ensemble
