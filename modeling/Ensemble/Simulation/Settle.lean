import Ensemble.Simulation.Basic

/-!
# How a simulation settles

`Simulation.turn?` lets the participant whose turn it is do what it can do, and `Simulation.settle`
repeats this until nobody is ready.  A simulation that has settled goes on only if something comes
from outside.
-/

namespace Ensemble.Simulation

open Coordination (Heard)

/-! ## The turn of the hub -/

/-- Closes the hub: its messages are dropped, and whoever waits for it hears of it. -/
def close (s : Simulation) : Simulation :=
  { s with isOpen := false, mailbox := [] }.wakeWaiting fun _ => true

/-- Lets the hub handle messages. -/
def serve : List HubMessage → Simulation → Simulation
  | [], s => s
  | .shutdown :: _, s => s.close
  | message :: rest, s =>
    let s := s.tick
    let (hub, effects) := s.hub.handle message s.now
    serve rest (effects.foldl carryOut { s with hub })

/-- Lets the hub handle what is in its mailbox. -/
def serveMailbox (s : Simulation) : Simulation :=
  serve s.mailbox { s with mailbox := [] }

/-! ## The turn of a reader -/

/-- The events of a stream up to the first that ends the turn, and whether there is one. -/
def uptoTerminal : List StreamEvent → List StreamEvent × Bool
  | [] => ([], false)
  | event :: rest =>
    if event.isTerminal then ([event], true)
    else
      let (events, ended) := uptoTerminal rest
      (event :: events, ended)

/-- Replaces a reader. -/
def putReader (s : Simulation) (r : Reader) : Simulation :=
  { s with readers := s.readers.map fun other => if other.number == r.number then r else other }

/-- Lets a reader go. -/
def dropReader (s : Simulation) (number : Nat) : Simulation :=
  { s with readers := s.readers.filter fun r => r.number != number }

/-- Asks the agent of a reader's turn. -/
def askAgent (s : Simulation) (r : Reader) (prompt : String) : Reader × Simulation :=
  let (reply, agents) := s.hub.agents.ask r.turn.session prompt
  let s := { s with hub := { s.hub with agents } }
  match reply with
  | .events events => ({ r with prompt := none, ahead := events, isOpen := false }, s)
  | .failed failure =>
    ({ r with prompt := none, ahead := [.fault failure.message], isOpen := false }, s)
  | .held =>
    ({ r with prompt := none },
      { s with streams := s.streams ++ [⟨r.turn.session, r.number, true⟩] })

/-- Passes on what a reader has ahead; it leaves when its turn has ended or nobody listens. -/
def passOn (s : Simulation) (r : Reader) : Simulation :=
  let (events, ended) := uptoTerminal r.ahead
  let messages := events.map (HubMessage.streamed r.turn.session r.turn.ticket)
  let deaf := !s.isOpen && !events.isEmpty
  let s := messages.foldl post s
  if ended || deaf || !r.isOpen then s.dropReader r.number
  else s.putReader { r with ahead := [] }

/-- Lets a reader do what it can do. -/
def read (s : Simulation) (number : Nat) : Simulation :=
  match s.readers.find? (·.number == number) with
  | none => s
  | some r =>
    match r.prompt with
    | none => s.passOn r
    | some prompt =>
      let (r, s) := s.askAgent r prompt
      s.passOn r

/-! ## The turn of a run -/

/-- Something awaited as far as replies and outcomes let it come, and what is heard of it. -/
def listen (s : Simulation) (p : Pending) : Pending × Option Heard :=
  match p.awaited with
  | .call lane c =>
    let c := s.advance p.caller c
    (⟨p.caller, .call lane c⟩, c.result?.map (Heard.response lane))
  | .model =>
    (p, (s.replyTo? p.caller).map fun
      | .ok (.session record) => .model (.ok record.model)
      | .ok _ => .model (.ok "")
      | .error failure => .model (.error failure))
  | .notice => (p, (s.replyTo? p.caller).map fun _ => .posted)

/-- Listens to everything awaited up to the first that is heard, which is taken out. -/
def listenAll (s : Simulation) : List Pending → List Pending × Option Heard
  | [] => ([], none)
  | p :: rest =>
    match s.listen p with
    | (_, some heard) => (rest, some heard)
    | (p, none) =>
      let (others, heard) := s.listenAll rest
      (p :: others, heard)

/-- Replaces a run. -/
def putRun (s : Simulation) (r : ActiveRun) : Simulation :=
  { s with runs := s.runs.map fun other => if other.number == r.number then r else other }

/-- Lets a run look at the organization. -/
def touchRun (s : Simulation) (r : ActiveRun) : Simulation :=
  let s := s.tick
  let touched := r.run.touch s.organization (s.fresh s.issued) s.now
  let s := { s with organization := touched.organization, issued := s.issued + 1 }
  let (pending, s) := s.postDemands touched.demands
  let r := { r with run := touched.run, pending := r.pending ++ pending }
  (s.putRun r).wakeFirst r

/-- Lets a run hear an answer. -/
def tellRun (s : Simulation) (r : ActiveRun) (heard : Heard) : Simulation :=
  let (run, demands) := r.run.hear heard
  let (pending, s) := s.postDemands demands
  let r := { r with run, pending := r.pending ++ pending }
  (s.putRun r).wakeFirst r

/-- Lets a run do the next thing it can do. -/
def goOn (s : Simulation) (number : Nat) : Simulation :=
  match s.runs.find? (·.number == number) with
  | none => s
  | some r =>
    if r.run.touches then s.touchRun r
    else
      match s.listenAll r.pending with
      | (pending, some heard) => s.tellRun { r with pending } heard
      | (pending, none) => s.putRun { r with pending }

/-! ## Settling -/

/-- Lets a participant do what it can do. -/
def act (s : Simulation) : Participant → Simulation
  | .hub => s.serveMailbox
  | .reader number => s.read number
  | .run number => s.goOn number

/-- Lets the next participant take its turn; none if nobody is ready. -/
def turn? (s : Simulation) : Option Simulation :=
  match s.ready, s.readyLast with
  | p :: rest, _ => some ({ s with ready := rest }.act p)
  | [], p :: rest => some ({ s with readyLast := rest }.act p)
  | [], [] => none

/-- Lets at most `turns` turns be taken. -/
def settleWithin : Nat → Simulation → Simulation
  | 0, s => s
  | turns + 1, s =>
    match s.turn? with
    | none => s
    | some s => settleWithin turns s

/-- More turns than any work takes that ends. -/
def maxTurns : Nat := 10000000

/-- Lets turns be taken until nobody is ready. -/
def settle (s : Simulation) : Simulation :=
  settleWithin maxTurns s

end Ensemble.Simulation
