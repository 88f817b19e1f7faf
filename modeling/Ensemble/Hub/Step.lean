import Ensemble.Hub.Basic

/-!
# How the hub handles a message

`Hub.handle` takes a hub and a message to the hub afterwards and the effects, in order.

A turn opened for agents that stream in their own time stays open until their events arrive as
messages.  Immediate agents have answered by the time the turn is opened, so their events are
applied before the message is done with, and a turn may be opened for them over one that is open.

Whenever a message may have left a session idle, its queue is drained: the next prompt opens a turn,
and with immediate agents this repeats until the queue is empty or a turn stays open.
-/

namespace Ensemble

/-- A piece of work of the hub: its result, the hub afterwards, and the effects in order. -/
structure HubStep (α : Type) where
  answer : α
  hub : Hub
  effects : List HubEffect

namespace Hub

/-- A step of the engine as a piece of work of the hub. -/
def work {α : Type} (h : Hub) (s : Step α) : HubStep α :=
  ⟨s.answer, { h with engine := s.engine }, s.signals.map .signal⟩

/-- Applies an event of a turn and answers whether the turn ended. -/
def apply (h : Hub) (session : String) (ticket : Nat) (event : StreamEvent) (now : Timestamp) :
    HubStep Bool :=
  let done := h.work (h.engine.apply session ticket event now)
  match done.answer with
  | .applied => ⟨false, done.hub, done.effects⟩
  | .ignored => ⟨false, done.hub, done.effects ++ [.observe session (.stale ticket)]⟩
  | .ended outcome =>
    ⟨true, done.hub, done.effects ++ [.observe session (.completed ticket outcome)]⟩

/-- Applies the events of an immediate agent, up to the first that ends a turn. -/
def applyAll (h : Hub) (session : String) (ticket : Nat) (now : Timestamp) :
    List StreamEvent → Hub × List HubEffect
  | [] => (h, [])
  | event :: rest =>
    let done := h.apply session ticket event now
    if event.isTerminal then (done.hub, done.effects)
    else
      let (h, effects) := applyAll done.hub session ticket now rest
      (h, done.effects ++ effects)

/-- The model of a session, or no text if there is no such session. -/
def modelOf (h : Hub) (session : String) : String :=
  match h.session? session with
  | some s => s.model
  | none => ""

/-- Opens a turn and gives its prompt to the agent. -/
def startTurn (h : Hub) (session prompt : String) (suppressPrompt : Bool) (now : Timestamp) :
    HubStep (Attempt OpenedTurn) :=
  let number := h.opened + 1
  let begun := h.work
    (h.engine.begin session prompt ⟨suppressPrompt, h.agents.areImmediate⟩ number now now)
  match begun.answer with
  | .error failure => ⟨.error failure, begun.hub, begun.effects⟩
  | .ok ticket =>
    let opened := { begun.hub with opened := number }
    let effects := begun.effects ++
      [.observe session (.started ticket), .ask ⟨session, opened.modelOf session, ticket⟩ prompt]
    if h.agents.areImmediate then
      let (reply, agents) := h.agents.ask session prompt
      let (after, more) :=
        { opened with agents }.applyAll session ticket now reply.immediateEvents
      ⟨.ok ⟨ticket, number⟩, after, effects ++ more⟩
    else ⟨.ok ⟨ticket, number⟩, opened, effects⟩

/-- Opens turns for queued prompts of an idle session, at most `count` of them. -/
def drainWithin (session : String) (now : Timestamp) : Nat → Hub → Hub × List HubEffect
  | 0, h => (h, [])
  | count + 1, h =>
    let taken := h.work (h.engine.takeNext session)
    match taken.answer with
    | none => (taken.hub, [])
    | some prompt =>
      let started := taken.hub.startTurn session prompt false now
      match started.answer with
      | .error _ => (started.hub, started.effects)
      | .ok _ =>
        let (h, effects) := drainWithin session now count started.hub
        (h, started.effects ++ effects)

/-- Opens turns for the queued prompts of a session as long as it is idle. -/
def drain (h : Hub) (session : String) (now : Timestamp) : Hub × List HubEffect :=
  match h.session? session with
  | some s => h.drainWithin session now s.queue.length
  | none => (h, [])

/-- Drains the queue of a session after a piece of work. -/
def thenDrain {α : Type} (s : HubStep α) (session : String) (now : Timestamp) :
    Hub × List HubEffect :=
  let (h, effects) := s.hub.drain session now
  (h, s.effects ++ effects)

/-- Opens a turn, or queues the prompt if one is open and agents are not immediate. -/
def submit (h : Hub) (session prompt : String) (now : Timestamp) : HubStep (Attempt HubAnswer) :=
  match h.session? session with
  | none => ⟨.error (.sessionNotFound session), h, []⟩
  | some s =>
    if s.isProcessing && !h.agents.areImmediate then
      let queued := h.work (h.engine.enqueue session prompt)
      match queued.answer with
      | .error failure => ⟨.error failure, queued.hub, queued.effects⟩
      | .ok depth =>
        ⟨.ok (.queued depth), queued.hub, queued.effects ++ [.observe session (.queued depth)]⟩
    else
      let started := h.startTurn session prompt false now
      ⟨started.answer.map .opened, started.hub, started.effects⟩

/-- Stops a stuck turn: the transcript gets a notice and the agent is told to stop. -/
def recover (h : Hub) (turn : StuckTurn) (now : Timestamp) : HubStep Bool :=
  let done := h.work (h.engine.recover turn.session turn.notice now)
  match done.answer with
  | .error _ => ⟨false, done.hub, done.effects⟩
  | .ok _ =>
    ⟨true, done.hub, done.effects ++
      [.stop turn.session, .observe turn.session (.noticed turn.notice),
        .observe turn.session (.recovered turn.elapsed turn.timeout)]⟩

/-- Stops stuck turns and answers which ones. -/
def recoverAll (now : Timestamp) : Hub → List StuckTurn → HubStep (List StuckTurn)
  | h, [] => ⟨[], h, []⟩
  | h, turn :: rest =>
    let first := h.recover turn now
    let others := recoverAll now first.hub rest
    ⟨if first.answer then turn :: others.answer else others.answer, others.hub,
      first.effects ++ others.effects⟩

/-- Stops the turns that are stuck at a time. -/
def scan (h : Hub) (time : Timestamp) (settings : WatchdogSettings) (multiAgent : List String)
    (now : Timestamp) : HubStep (List StuckTurn) :=
  recoverAll now h (Watchdog.findStuck settings time multiAgent h.engine.sessions.values)

/-- Adds a session and tells the observer. -/
def announce (session : String) (s : HubStep (Attempt Unit)) : HubStep (Attempt HubAnswer) :=
  match s.answer with
  | .error failure => ⟨.error failure, s.hub, s.effects⟩
  | .ok () => ⟨.ok .done, s.hub, s.effects ++ [.observe session .created]⟩

/-- Handles a request after which no queue is drained. -/
def answer (h : Hub) (request : HubRequest) (now : Timestamp) : HubStep (Attempt HubAnswer) :=
  match request with
  | .create session model =>
    match Session.create session model now with
    | .error failure => ⟨.error failure, h, []⟩
    | .ok s => announce session (h.work (h.engine.create s))
  | .restore s => announce s.name (h.work (h.engine.restore s now))
  | .close session =>
    let done := h.work (h.engine.close session)
    match done.answer with
    | .error failure => ⟨.error failure, done.hub, done.effects⟩
    | .ok s =>
      let stops := if s.isProcessing then [HubEffect.stop session] else []
      ⟨.ok (.session s), done.hub, done.effects ++ stops ++ [.observe session .closed]⟩
  | .setModel session model =>
    let done := h.work (h.engine.setModel session model)
    ⟨done.answer.map fun _ => .done, done.hub, done.effects⟩
  | .begin session prompt suppressPrompt =>
    let started := h.startTurn session prompt suppressPrompt now
    ⟨started.answer.map .opened, started.hub, started.effects⟩
  | .submit session prompt => h.submit session prompt now
  | .complete session ticket outcome =>
    let done := h.work (h.engine.complete session ticket outcome now)
    let event := if done.answer then .completed ticket outcome else .stale ticket
    ⟨.ok (.changed done.answer), done.hub, done.effects ++ [.observe session event]⟩
  | .abort session =>
    let done := h.work (h.engine.abort session now)
    match done.answer with
    | .ok true =>
      ⟨.ok (.changed true), done.hub, done.effects ++ [.stop session, .observe session .aborted]⟩
    | other => ⟨other.map .changed, done.hub, done.effects⟩
  | .nextGeneration session =>
    let done := h.work (h.engine.nextGeneration session)
    ⟨done.answer.map .generation, done.hub, done.effects⟩
  | .postNotice session text =>
    let done := h.work (h.engine.postNotice session text now)
    match done.answer with
    | .error failure => ⟨.error failure, done.hub, done.effects⟩
    | .ok () => ⟨.ok .done, done.hub, done.effects ++ [.observe session (.noticed text)]⟩
  | .snapshot session =>
    match h.session? session with
    | some s => ⟨.ok (.session s), h, []⟩
    | none => ⟨.error (.sessionNotFound session), h, []⟩
  | .list => ⟨.ok (.sessions h.engine.sessions.values), h, []⟩
  | .scan time settings multiAgent =>
    let done := h.scan time settings multiAgent now
    ⟨.ok (.recovered done.answer), done.hub, done.effects⟩

/-- The session whose queue is drained once a request has been answered. -/
def drainedAfter? (request : HubRequest) (answer : Attempt HubAnswer) : Option String :=
  match request, answer with
  | .begin session _ _, _ => some session
  | .submit session _, _ => some session
  | .complete session _ _, .ok (.changed true) => some session
  | _, _ => none

/-- Handles a message. -/
def handle (h : Hub) (message : HubMessage) (now : Timestamp) : Hub × List HubEffect :=
  match message with
  | .request caller request =>
    let done := h.answer request now
    let replied := { done with effects := done.effects ++ [.reply caller done.answer] }
    match drainedAfter? request done.answer with
    | some session => thenDrain replied session now
    | none => (replied.hub, replied.effects)
  | .streamed session ticket event =>
    let done := h.apply session ticket event now
    if done.answer then thenDrain done session now else (done.hub, done.effects)
  | .shutdown => (h, [])

/-- Handles messages one after the other, each at its time. -/
def handleAll : Hub → List (HubMessage × Timestamp) → Hub × List HubEffect
  | h, [] => (h, [])
  | h, (message, now) :: rest =>
    let (h, effects) := h.handle message now
    let (h, more) := handleAll h rest
    (h, effects ++ more)

/-- Handling messages in two lots is handling them all. -/
theorem handleAll_append (h : Hub) (first second : List (HubMessage × Timestamp)) :
    h.handleAll (first ++ second) =
      (((h.handleAll first).1.handleAll second).1,
        (h.handleAll first).2 ++ ((h.handleAll first).1.handleAll second).2) := by
  induction first generalizing h with
  | nil => simp [handleAll]
  | cons head rest ih =>
    obtain ⟨message, now⟩ := head
    simp only [List.cons_append, handleAll, ih, List.append_assoc]

end Hub

end Ensemble
