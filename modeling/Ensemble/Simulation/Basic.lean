import Ensemble.Coordination.Run
import Ensemble.Hub.Call

/-!
# Simulations

A simulation holds everything that takes part in the work of an ensemble: the hub with its mailbox,
the readers that pass on what agents stream, the organization, and the runs that coordinate groups.

Who has something to do is *ready*, and takes its turn in the order in which it became ready.  One
run may stand in the foreground, since somebody outside waits for it; it takes its turn when nobody
else is ready.

This module says how messages are posted and how the effects of the hub reach the others.
-/

namespace Ensemble

open Coordination (Demand Heard Run)

/-- Someone who takes turns in a simulation. -/
inductive Participant where
  | hub
  | reader (number : Nat)
  | run (number : Nat)
  deriving DecidableEq, Repr

/-- A reader passes on to the hub what the agent of a turn streams. -/
structure Reader where
  number : Nat
  turn : TurnLabel
  /-- The prompt, as long as the agent has not been asked. -/
  prompt : Option String
  /-- What has been streamed and not been read. -/
  ahead : List StreamEvent
  /-- Whether more may be streamed. -/
  isOpen : Bool
  deriving DecidableEq, Repr

/-- A stream that is fed from outside. -/
structure HeldStream where
  session : String
  reader : Nat
  /-- Whether it has not been ended. -/
  isHeld : Bool
  deriving DecidableEq, Repr

/-- What a run waits for. -/
inductive Awaited where
  | call (lane : Nat) (call : Call)
  | model
  | notice

/-- What a run waits for, and the caller that the hub replies to. -/
structure Pending where
  caller : Nat
  awaited : Awaited

/-- A run in a simulation. -/
structure ActiveRun where
  number : Nat
  run : Run
  pending : List Pending
  isForeground : Bool

/-- A hub, agents, an organization and runs at work. -/
structure Simulation where
  hub : Hub
  /-- Whether the hub takes messages. -/
  isOpen : Bool
  organization : Organization
  now : Timestamp
  /-- Supplies the identifiers of groups and cycles. -/
  fresh : Nat → Id
  /-- How many identifiers were taken from the supply. -/
  issued : Nat
  mailbox : List HubMessage
  /-- Those who are ready, in the order of their turns. -/
  ready : List Participant
  /-- Those who are ready when nobody else is. -/
  readyLast : List Participant
  readers : List Reader
  /-- The streams fed from outside, in the order in which they were opened. -/
  streams : List HeldStream
  runs : List ActiveRun
  /-- How many callers, readers and runs there have been. -/
  numbers : Nat
  replies : List (Nat × Attempt HubAnswer)
  signals : List Signal
  /-- What the observer was told. -/
  observed : List (String × HubEvent)
  /-- Which prompts agents were given. -/
  asked : List (TurnLabel × String)
  /-- Which agents were ordered to stop. -/
  stopped : List String

namespace Simulation

/-- A simulation at its start. -/
def start (agents : Agents) (fresh : Nat → Id) (now : Timestamp) : Simulation where
  hub := .start agents
  isOpen := true
  organization := .empty
  now := now
  fresh := fresh
  issued := 0
  mailbox := []
  ready := []
  readyLast := []
  readers := []
  streams := []
  runs := []
  numbers := 0
  replies := []
  signals := []
  observed := []
  asked := []
  stopped := []

/-- The simulation a moment later. -/
def tick (s : Simulation) : Simulation :=
  { s with now := s.now.add ⟨1000⟩ }

/-- Forgets what the observer was told and what agents were given and ordered. -/
def clearRecords (s : Simulation) : Simulation :=
  { s with observed := [], asked := [], stopped := [] }

/-- The sessions of the hub, unless it is closed. -/
def sessions? (s : Simulation) : Option (List Session) :=
  if s.isOpen then some s.hub.engine.sessions.values else none

/-! ## Becoming ready -/

/-- Appends a participant that is not there yet. -/
def line (p : Participant) (queue : List Participant) : List Participant :=
  if queue.contains p then queue else queue ++ [p]

/-- Makes a participant ready. -/
def wake (s : Simulation) (p : Participant) : Simulation :=
  { s with ready := line p s.ready }

/-- Makes a run ready. -/
def wakeRun (s : Simulation) (r : ActiveRun) : Simulation :=
  if r.isForeground then { s with readyLast := line (.run r.number) s.readyLast }
  else s.wake (.run r.number)

/-- Makes the runs ready that wait for something with a property. -/
def wakeWaiting (s : Simulation) (p : Pending → Bool) : Simulation :=
  (s.runs.filter fun r => r.pending.any p).foldl wakeRun s

/-- Lets a run that is not done take the very next turn. -/
def wakeFirst (s : Simulation) (r : ActiveRun) : Simulation :=
  if r.isForeground then { s with readyLast := .run r.number :: s.readyLast }
  else { s with ready := .run r.number :: s.ready }

/-! ## Posting messages -/

/-- Puts a message into the mailbox of the hub; a closed hub gets none. -/
def post (s : Simulation) (message : HubMessage) : Simulation :=
  if s.isOpen then { s with mailbox := s.mailbox ++ [message] }.wake .hub else s

/-- Posts a request and answers who the caller is. -/
def postRequest (s : Simulation) (request : HubRequest) : Nat × Simulation :=
  let caller := s.numbers + 1
  (caller, { s with numbers := caller }.post (.request caller request))

/-- Posts a request that a run makes. -/
def postDemand (s : Simulation) (demand : Demand) : Pending × Simulation :=
  match demand with
  | .prompt p =>
    let (caller, s) := s.postRequest (Call.request p.session p.prompt false)
    (⟨caller, .call p.lane (.opening p.session)⟩, s)
  | .model session =>
    let (caller, s) := s.postRequest (.snapshot session)
    (⟨caller, .model⟩, s)
  | .notice session text =>
    let (caller, s) := s.postRequest (.postNotice session text)
    (⟨caller, .notice⟩, s)

/-- Posts the requests that a run makes. -/
def postDemands (s : Simulation) : List Demand → List Pending × Simulation
  | [] => ([], s)
  | demand :: rest =>
    let (first, s) := s.postDemand demand
    let (others, s) := s.postDemands rest
    (first :: others, s)

/-! ## Replies and outcomes -/

/-- What the hub has replied to a caller; a closed hub will not reply any more. -/
def replyTo? (s : Simulation) (caller : Nat) : Option (Attempt HubAnswer) :=
  match s.replies.lookup caller with
  | some reply => some reply
  | none => if s.isOpen then none else some (.error .hubClosed)

/-- The outcome of the turn of a number. -/
def outcomeOf? (s : Simulation) (number : Nat) : Option Outcome :=
  (s.signals.find? (·.waiter == number)).map (·.outcome)

/-- A call with the reply it waits for. -/
def withReply (s : Simulation) (caller : Nat) (c : Call) : Call :=
  match s.replies.lookup caller with
  | some reply => c.hearReply reply
  | none => if s.isOpen then c else c.hearClosed

/-- A call with the outcome it waits for. -/
def withOutcome (s : Simulation) (c : Call) : Call :=
  match c with
  | .waiting _ turn =>
    match s.outcomeOf? turn.number with
    | some outcome => c.hearOutcome outcome
    | none => if s.isOpen then c else c.hearClosed
  | _ => c

/-- A call as far as replies and outcomes let it come. -/
def advance (s : Simulation) (caller : Nat) (c : Call) : Call :=
  match c with
  | .opening _ => s.withOutcome (s.withReply caller c)
  | .waiting _ _ => s.withOutcome c
  | .stopping _ => s.withReply caller c
  | .over _ => c

/-! ## Effects of the hub -/

/-- Whether agents note the prompts they are given. -/
def notesPrompts (a : Agents) : Bool :=
  match a with
  | .echoing _ => false
  | .scripted _ _ => true

/-- Starts to read what the agent of a turn streams. -/
def addReader (s : Simulation) (turn : TurnLabel) (prompt : String) : Simulation :=
  let reader : Reader := ⟨s.numbers + 1, turn, some prompt, [], true⟩
  { s with numbers := reader.number, readers := s.readers ++ [reader] }.wake
    (.reader reader.number)

/-- Whether something that is awaited is the outcome of the turn of a number. -/
def awaitsTurn (number : Nat) (p : Pending) : Bool :=
  match p.awaited with
  | .call _ c => c.waitsFor number
  | _ => false

/-- Carries out an effect of the hub. -/
def carryOut (s : Simulation) (effect : HubEffect) : Simulation :=
  match effect with
  | .observe session event => { s with observed := s.observed ++ [(session, event)] }
  | .ask turn prompt =>
    let s :=
      if notesPrompts s.hub.agents then { s with asked := s.asked ++ [(turn, prompt)] } else s
    if s.hub.agents.areImmediate then s else s.addReader turn prompt
  | .stop session => { s with stopped := s.stopped ++ [session] }
  | .signal signal =>
    { s with signals := s.signals ++ [signal] }.wakeWaiting (awaitsTurn signal.waiter)
  | .reply caller answer =>
    { s with replies := (caller, answer) :: s.replies }.wakeWaiting (·.caller == caller)

end Simulation

end Ensemble
