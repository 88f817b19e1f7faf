import Ensemble.Registry
import Ensemble.Turn.Basic

/-!
# The turn engine

The engine holds the sessions, and for each open turn that somebody waits on, a waiter.  It sees to
it that a turn has one outcome and that the outcome reaches its waiter once.

Beginning a turn starts the next generation of its session, and the number of the generation is the
ticket of the turn.  Events and completions carry a ticket; one that is not the session's generation
belongs to a turn that is over and changes nothing.

An operation takes the engine to a `Step`: an answer, the engine afterwards, and the outcomes that
reached waiters on the way.  A failing operation has a step too, since what it does before it fails
is part of what it does.  `Engine.perform` runs an operation given as data.
-/

namespace Ensemble

/-- Somebody who waits for the outcome of a turn. -/
structure Waiter where
  ticket : Nat
  /-- Tells the waiter apart from all others. -/
  number : Nat
  deriving DecidableEq, Repr

/-- An outcome on its way to a waiter. -/
structure Signal where
  waiter : Nat
  outcome : Outcome
  deriving DecidableEq, Repr

/-- The sessions and those who wait for their open turns. -/
structure Engine where
  sessions : Registry Session
  /-- The waiter of each session. -/
  waiters : Registry Waiter

/-- How to begin a turn. -/
structure BeginOptions where
  /-- Leave the prompt out of the transcript. -/
  suppressPrompt : Bool
  /-- Begin even if a turn is open. -/
  allowOverlap : Bool
  deriving DecidableEq, Repr

/-- What an event did. -/
inductive Disposition where
  | applied
  /-- The ticket is not that of the open turn. -/
  | ignored
  /-- The event ended the turn. -/
  | ended (outcome : Outcome)
  deriving DecidableEq, Repr

/-- The answer of an operation, the engine afterwards, and the outcomes sent. -/
structure Step (α : Type) where
  answer : α
  engine : Engine
  signals : List Signal

/-- Changes the answer of a step. -/
def Step.map {α β : Type} (f : α → β) (s : Step α) : Step β :=
  ⟨f s.answer, s.engine, s.signals⟩

namespace Engine

/-- The engine without sessions. -/
def empty : Engine := ⟨.empty, .empty⟩

/-- The session of a name. -/
def session? (e : Engine) (name : String) : Option Session :=
  e.sessions.get? name

/-- Whether a session has an open turn. -/
def isProcessing (e : Engine) (name : String) : Bool :=
  match e.session? name with
  | some s => s.isProcessing
  | none => false

/-- Whether a ticket is that of the open turn of a session. -/
def isCurrent (e : Engine) (name : String) (ticket : Nat) : Bool :=
  match e.session? name with
  | some s => s.isProcessing && s.generation == ticket
  | none => false

/-- The engine with a session put in place of the one of its name. -/
def put (e : Engine) (name : String) (s : Session) : Engine :=
  { e with sessions := e.sessions.insert name s }

/-- The engine without the waiter of a session. -/
def dropWaiter (e : Engine) (name : String) : Engine :=
  { e with waiters := e.waiters.erase name }

/-- The signal that tells the waiter of a session, if there is one, that its turn is cancelled. -/
def cancellation (e : Engine) (name : String) : List Signal :=
  match e.waiters.get? name with
  | some waiter => [⟨waiter.number, .cancelled⟩]
  | none => []

/-- Changes a session without telling anybody. -/
def change {α : Type} (e : Engine) (name : String) (f : Session → Session) (answer : Session → α) :
    Step (Attempt α) :=
  match e.session? name with
  | some s => ⟨.ok (answer (f s)), e.put name (f s), []⟩
  | none => ⟨.error (.sessionNotFound name), e, []⟩

/-! ## Sessions come and go -/

/-- Adds a session. -/
def create (e : Engine) (s : Session) : Step (Attempt Unit) :=
  if e.sessions.contains s.name then ⟨.error (.sessionExists s.name), e, []⟩
  else ⟨.ok (), e.put s.name s, []⟩

/-- Adds a session from before a restart. -/
def restore (e : Engine) (s : Session) (now : Timestamp) : Step (Attempt Unit) :=
  if e.sessions.contains s.name then ⟨.error (.sessionExists s.name), e, []⟩
  else ⟨.ok (), e.put s.name (s.resume now), []⟩

/-- Removes a session and cancels the turn somebody still waits for. -/
def close (e : Engine) (name : String) : Step (Attempt Session) :=
  let left := e.dropWaiter name
  match e.session? name with
  | some s =>
    ⟨.ok s, { left with sessions := left.sessions.erase name }, e.cancellation name⟩
  | none => ⟨.error (.sessionNotFound name), left, e.cancellation name⟩

/-! ## Turns -/

/-- Starts the next generation of a session, so that no ticket given out before is current. -/
def nextGeneration (e : Engine) (name : String) : Step (Attempt Nat) :=
  e.change name (·.nextGeneration) (·.generation)

/-- Begins a turn for a waiter and answers its ticket; a turn it overlaps is cancelled. -/
def begin (e : Engine) (name prompt : String) (options : BeginOptions) (waiter : Nat)
    (startedAt now : Timestamp) : Step (Attempt Nat) :=
  match e.session? name with
  | none => ⟨.error (.sessionNotFound name), e, []⟩
  | some s =>
    if s.isProcessing && !options.allowOverlap then
      ⟨.error (.alreadyProcessing name), e, []⟩
    else
      let s := if options.suppressPrompt then s else s.push (.ofRole .user prompt now)
      let s := s.nextGeneration.openTurn startedAt now
      ⟨.ok s.generation,
        { e.put name s with waiters := e.waiters.insert name ⟨s.generation, waiter⟩ },
        e.cancellation name⟩

/-- The notice that a turn leaves in the transcript when it fails. -/
def failureNotice (message : String) : String :=
  "Turn failed: " ++ message

/--
Ends the turn with the given ticket and answers whether it was the open one.  The session is made
idle first, and the waiter is told only if it waits for this very turn.
-/
def complete (e : Engine) (name : String) (ticket : Nat) (outcome : Outcome) (now : Timestamp) :
    Step Bool :=
  match e.session? name with
  | none => ⟨false, e, []⟩
  | some s =>
    if ticket != s.generation || !s.isProcessing then ⟨false, e, []⟩
    else
      let s := s.flush now
      let s :=
        match outcome with
        | .failed message => s.notice (failureNotice message) now
        | _ => s
      let after := e.put name (s.closeTurn.setResumed false)
      match e.waiters.get? name with
      | some waiter =>
        if waiter.ticket == ticket then ⟨true, after.dropWaiter name, [⟨waiter.number, outcome⟩]⟩
        else ⟨true, after, []⟩
      | none => ⟨true, after, []⟩

/-- Applies an event that does not end a turn to its session. -/
def absorb (s : Session) (event : StreamEvent) (now : Timestamp) : Session :=
  match event with
  | .content chunk => s.appendContent chunk now
  | .reasoning chunk => s.appendReasoning chunk now
  | .toolStarted tool => s.toolStarted tool now
  | .toolFinished tool output => s.toolFinished tool output now
  | .idle => { s.flush now with turnResponse := "" }
  | .fault _ => s

/-- The outcome of the turn that an event ends; none if it does not end one. -/
def outcomeOf? (s : Session) : StreamEvent → Option Outcome
  | .idle => some (.completed s.turnResponse)
  | .fault message => some (.failed message)
  | _ => none

/-- Applies an event of the turn with the given ticket. -/
def apply (e : Engine) (name : String) (ticket : Nat) (event : StreamEvent) (now : Timestamp) :
    Step Disposition :=
  match e.session? name with
  | none => ⟨.ignored, e, []⟩
  | some s =>
    if s.isProcessing && s.generation == ticket then
      let after := e.put name (absorb s event now)
      match outcomeOf? s event with
      | some outcome =>
        let done := after.complete name ticket outcome now
        ⟨.ended outcome, done.engine, done.signals⟩
      | none => ⟨.applied, after, []⟩
    else ⟨.ignored, e, []⟩

/-- Makes a session idle and answers whether there was anything to stop. -/
def abort (e : Engine) (name : String) (now : Timestamp) : Step (Attempt Bool) :=
  let left := e.dropWaiter name
  match e.session? name with
  | none => ⟨.error (.sessionNotFound name), left, []⟩
  | some s =>
    if s.isProcessing || !s.queue.isEmpty || e.waiters.contains name then
      ⟨.ok true, left.put name (((s.flush now).closeTurn.clearQueue).setResumed false),
        e.cancellation name⟩
    else ⟨.ok false, left, []⟩

/-! ## Queues and notices -/

/-- Queues a prompt and answers how many are queued. -/
def enqueue (e : Engine) (name prompt : String) : Step (Attempt Nat) :=
  e.change name (·.enqueue prompt) (·.queue.length)

/-- Takes the next queued prompt if the session is idle. -/
def takeNext (e : Engine) (name : String) : Step (Option String) :=
  match e.session? name with
  | none => ⟨none, e, []⟩
  | some s =>
    match s.isProcessing, s.queue with
    | false, prompt :: rest => ⟨some prompt, e.put name { s with queue := rest }, []⟩
    | _, _ => ⟨none, e, []⟩

/-- Posts a notice to the operator. -/
def postNotice (e : Engine) (name text : String) (now : Timestamp) : Step (Attempt Unit) :=
  e.change name (·.notice text now) fun _ => ()

/-- Changes the model of a session. -/
def setModel (e : Engine) (name model : String) : Step (Attempt Unit) :=
  e.change name (fun s => { s with model }) fun _ => ()

/-- Posts a notice and then aborts. -/
def recover (e : Engine) (name text : String) (now : Timestamp) : Step (Attempt Bool) :=
  let noticed := e.postNotice name text now
  match noticed.answer with
  | .error failure => ⟨.error failure, noticed.engine, noticed.signals⟩
  | .ok () =>
    let aborted := noticed.engine.abort name now
    match aborted.answer with
    | .error failure => ⟨.error failure, aborted.engine, aborted.signals⟩
    | .ok changed =>
      let cleared := aborted.engine.change name (·.setResumed false) fun _ => changed
      ⟨cleared.answer, cleared.engine, aborted.signals ++ cleared.signals⟩

/-! ## Operations as data -/

/-- An operation of the engine. -/
inductive Operation where
  | create (session : Session)
  | restore (session : Session) (now : Timestamp)
  | close (name : String)
  | nextGeneration (name : String)
  | begin (name prompt : String) (options : BeginOptions) (waiter : Nat) (startedAt now : Timestamp)
  | apply (name : String) (ticket : Nat) (event : StreamEvent) (now : Timestamp)
  | complete (name : String) (ticket : Nat) (outcome : Outcome) (now : Timestamp)
  | abort (name : String) (now : Timestamp)
  | enqueue (name prompt : String)
  | takeNext (name : String)
  | postNotice (name text : String) (now : Timestamp)
  | recover (name text : String) (now : Timestamp)
  | setModel (name model : String)
  deriving DecidableEq, Repr

/-- What an operation answers. -/
inductive Answer where
  | done
  | session (session : Session)
  | generation (number : Nat)
  | ticket (number : Nat)
  | disposition (disposition : Disposition)
  | changed (changed : Bool)
  | depth (depth : Nat)
  | next (prompt : Option String)
  | refused (failure : Failure)
  deriving DecidableEq, Repr

/-- Puts the answer of a step into the form common to all operations. -/
def Answer.ofAttempt {α : Type} (wrap : α → Answer) : Attempt α → Answer
  | .ok value => wrap value
  | .error failure => .refused failure

/-- Runs an operation. -/
def perform (e : Engine) : Operation → Step Answer
  | .create session => (e.create session).map (.ofAttempt fun _ => .done)
  | .restore session now => (e.restore session now).map (.ofAttempt fun _ => .done)
  | .close name => (e.close name).map (.ofAttempt .session)
  | .nextGeneration name => (e.nextGeneration name).map (.ofAttempt .generation)
  | .begin name prompt options waiter startedAt now =>
    (e.begin name prompt options waiter startedAt now).map (.ofAttempt .ticket)
  | .apply name ticket event now => (e.apply name ticket event now).map .disposition
  | .complete name ticket outcome now => (e.complete name ticket outcome now).map .changed
  | .abort name now => (e.abort name now).map (.ofAttempt .changed)
  | .enqueue name prompt => (e.enqueue name prompt).map (.ofAttempt .depth)
  | .takeNext name => (e.takeNext name).map .next
  | .postNotice name text now => (e.postNotice name text now).map (.ofAttempt fun _ => .done)
  | .recover name text now => (e.recover name text now).map (.ofAttempt .changed)
  | .setModel name model => (e.setModel name model).map (.ofAttempt fun _ => .done)

end Engine

end Ensemble
