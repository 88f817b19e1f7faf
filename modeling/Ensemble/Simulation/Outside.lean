import Ensemble.Simulation.Settle
import Ensemble.State.Document

/-!
# Working with a simulation from outside

What somebody outside can do with a simulation.  Each operation is carried out and then the
simulation settles, so that the answer is final and nobody inside has anything left to do.

Time limits pass only when a simulation has settled: a call or a run that has no result by then will
have none without something from outside.
-/

namespace Ensemble.Simulation

open Coordination (Run RunReport)

/-! ## Requests and calls -/

/-- Makes a request of the hub. -/
def ask (s : Simulation) (request : HubRequest) : Attempt HubAnswer × Simulation :=
  let (caller, s) := s.postRequest request
  let s := s.settle
  ((s.replyTo? caller).getD (.error .hubClosed), s)

/-- Starts a call and goes on with it as far as it comes. -/
def call (s : Simulation) (session prompt : String) (suppressPrompt : Bool) : Call × Simulation :=
  let (caller, s) := s.postRequest (Call.request session prompt suppressPrompt)
  let s := s.settle
  (s.advance caller (.opening session), s)

/-- Sends a prompt and waits for the response; none if there is none before the caller gives up. -/
def send (s : Simulation) (session prompt : String) (suppressPrompt : Bool) :
    Option (Attempt String) × Simulation :=
  let (c, s) := s.call session prompt suppressPrompt
  (c.result?, s)

/-- Sends a prompt and waits for the response; a turn that outlives the limit is aborted. -/
def sendWithin (s : Simulation) (session prompt : String) (limit : Span) :
    Attempt String × Simulation :=
  let (c, s) := s.call session prompt false
  match c.expire limit with
  | (c, some request) =>
    let (reply, s) := s.ask request
    (((c.hearReply reply).result?).getD (.error .hubClosed), s)
  | (c, none) => (c.result?.getD (.error .hubClosed), s)

/-! ## Runs -/

/-- Adds a run. -/
def addRun (s : Simulation) (run : Run) (isForeground : Bool) : Nat × Simulation :=
  let active : ActiveRun := ⟨s.numbers + 1, run, [], isForeground⟩
  (active.number,
    { s with numbers := active.number, runs := s.runs ++ [active] }.wakeRun active)

/-- Takes away a run and answers its report, if it is over. -/
def dropRun (s : Simulation) (number : Nat) : Option (Attempt RunReport) × Simulation :=
  let report := (s.runs.find? (·.number == number)).bind (·.run.report?)
  (report, { s with runs := s.runs.filter fun r => r.number != number })

/-- Runs a prompt through a group; no report if there is none before the caller gives up. -/
def run (s : Simulation) (group : Id) (prompt : String) (settings : ReflectionSettings) :
    Option (Attempt RunReport) × Simulation :=
  let (number, s) := s.addRun (.start group prompt settings) true
  s.settle.dropRun number

/-- Starts a run that nobody waits for and answers its number. -/
def runInBackground (s : Simulation) (group : Id) (prompt : String)
    (settings : ReflectionSettings) : Nat × Simulation :=
  let (number, s) := s.addRun (.start group prompt settings) false
  (number, s.settle)

/-- Whether a run is under way. -/
def isRunning (s : Simulation) (number : Nat) : Bool :=
  s.runs.any fun r => r.number == number && r.run.report?.isNone

/-- Takes the report of a run that is over. -/
def takeReport (s : Simulation) (number : Nat) : Option (Attempt RunReport) × Simulation :=
  if s.isRunning number then (none, s) else s.dropRun number

/-! ## Agents -/

/-- The stream of a session at a place, counted from one. -/
def stream? (s : Simulation) (session : String) (place : Nat) : Option HeldStream :=
  if place == 0 then none else (s.streams.filter (·.session == session))[place - 1]?

/-- Feeds an event into a stream and answers whether there is one with a reader. -/
def feed (s : Simulation) (session : String) (place : Nat) (event : StreamEvent) :
    Bool × Simulation :=
  match s.stream? session place with
  | none => (false, s)
  | some stream =>
    match s.readers.find? (·.number == stream.reader), stream.isHeld with
    | some r, true =>
      (true,
        ((s.putReader { r with ahead := r.ahead ++ [event] }).wake (.reader r.number)).settle)
    | _, _ => (false, s)

/-- Ends a stream and answers whether it was held until then. -/
def endStream (s : Simulation) (session : String) (place : Nat) : Bool × Simulation :=
  match s.stream? session place with
  | none => (false, s)
  | some stream =>
    if stream.isHeld then
      let ended (other : HeldStream) : HeldStream :=
        if other.reader == stream.reader then { other with isHeld := false } else other
      let s := { s with streams := s.streams.map ended }
      match s.readers.find? (·.number == stream.reader) with
      | none => (true, s)
      | some r =>
        (true, ((s.putReader { r with isOpen := false }).wake (.reader r.number)).settle)
    else (false, s)

/-- Gives the agent of a session one more reply. -/
def extendScript (s : Simulation) (session : String) (reply : AgentReply) : Simulation :=
  { s with hub := { s.hub with agents := s.hub.agents.extend session reply } }

/-! ## The organization and the hub -/

/-- Does something to the organization; the function may take identifiers from the supply. -/
def organize {α : Type} (s : Simulation) (count : Nat)
    (f : Organization → (Nat → Id) → Timestamp → α × Organization) : α × Simulation :=
  let s := s.tick
  let (answer, organization) := f s.organization (fun n => s.fresh (s.issued + n)) s.now
  (answer, { s with organization, issued := s.issued + count })

/-- Shuts the hub down. -/
def shutDown (s : Simulation) : Simulation :=
  (s.post .shutdown).settle

/-- Recovers the turns that are stuck at a time from now. -/
def scanAfter (s : Simulation) (ahead : Span) (settings : WatchdogSettings)
    (multiAgent : List String) : Attempt HubAnswer × Simulation :=
  let s := s.tick
  s.ask (.scan (s.now.add ahead) settings multiAgent)

/-! ## Saved states -/

/-- The warning that a session could not be restored. -/
def restoreWarning (session : String) (failure : Failure) : String :=
  "Session '" ++ session ++ "' not restored: " ++ failure.message

/-- Restores sessions one after the other and answers a warning for each that was refused. -/
def restoreSessions (s : Simulation) : List Session → List String × Simulation
  | [] => ([], s)
  | record :: rest =>
    let (reply, s) := s.ask (.restore record)
    let (warnings, s) := s.restoreSessions rest
    match reply with
    | .ok _ => (warnings, s)
    | .error failure => (restoreWarning record.name failure :: warnings, s)

/-- Takes over the organization of a state and restores its sessions. -/
def restore (s : Simulation) (state : SavedState) : List String × Simulation :=
  { s with organization := state.organization }.restoreSessions state.sessions

/-- The state to save. -/
def savedState (s : Simulation) : Attempt SavedState × Simulation :=
  match s.ask .list with
  | (.ok (.sessions sessions), s) => (.ok (.create s.organization sessions s.now), s)
  | (.ok _, s) => (.error .hubClosed, s)
  | (.error failure, s) => (.error failure, s)

end Ensemble.Simulation
