import Ensemble.Proofs.Hub.Drain
import Ensemble.Proofs.Turn.History
import Ensemble.Proofs.Turn.Queue

/-!
# What answering a request comes to

With agents that stream in their own time, a request comes to operations of the engine
(`operations`).  `Answered` lists what the hub can do to answer it: nothing but read, one operation
with the reply that goes with it, opening a turn, or stopping stuck turns.  What is said of all
requests is proved by these cases.
-/

namespace Ensemble

open Engine (Operation Answer begunTurn?)

namespace HubEffect

/-- The outcome that an effect sends. -/
def signal? : HubEffect → Option Signal
  | .signal outcome => some outcome
  | _ => none

/-- The turn in which an effect asks an agent. -/
def asked? : HubEffect → Option TurnLabel
  | .ask turn _ => some turn
  | _ => none

/-- Whether an effect sends no outcome, asks no agent and hands out no turn. -/
def isQuiet : HubEffect → Bool
  | .signal _ => false
  | .ask _ _ => false
  | .reply _ (.ok (.opened _)) => false
  | _ => true

/-- What is quiet is no signal. -/
theorem signal?_of_isQuiet {effect : HubEffect} (h : effect.isQuiet = true) :
    effect.signal? = none := by
  cases effect with
  | signal => cases h
  | _ => rfl

/-- What is quiet asks no agent. -/
theorem asked?_of_isQuiet {effect : HubEffect} (h : effect.isQuiet = true) :
    effect.asked? = none := by
  cases effect with
  | ask => cases h
  | _ => rfl

end HubEffect

namespace Hub

/-- The operations that answer a request. -/
def operations (e : Engine) (request : HubRequest) (now : Timestamp) : List Operation :=
  match request with
  | .create session model =>
    match Session.create session model now with
    | .error _ => []
    | .ok s => [.create s]
  | .restore s => [.restore s now]
  | .close session => [.close session]
  | .setModel session model => [.setModel session model]
  | .begin session prompt suppressPrompt =>
    [.begin session prompt ⟨suppressPrompt, false⟩ 0 now now]
  | .submit session prompt =>
    if e.isProcessing session then [.enqueue session prompt]
    else [.begin session prompt ⟨false, false⟩ 0 now now]
  | .complete session ticket outcome => [.complete session ticket outcome now]
  | .abort session => [.abort session now]
  | .nextGeneration session => [.nextGeneration session]
  | .postNotice session text => [.postNotice session text now]
  | .snapshot _ => []
  | .list => []
  | .scan time settings multiAgent =>
    (Watchdog.findStuck settings time multiAgent e.sessions.values).map fun turn =>
      .recover turn.session turn.notice now

/-- A request that comes to one operation, which begins no turn. -/
inductive ComesTo (h : Hub) (now : Timestamp) : HubRequest → Operation → Prop where
  | created {session model s} (created : Session.create session model now = .ok s) :
      ComesTo h now (.create session model) (.create s)
  | restored {s} : ComesTo h now (.restore s) (.restore s now)
  | closed {session} : ComesTo h now (.close session) (.close session)
  | remodelled {session model} :
      ComesTo h now (.setModel session model) (.setModel session model)
  | queued {session prompt} (busy : h.engine.isProcessing session = true) :
      ComesTo h now (.submit session prompt) (.enqueue session prompt)
  | completed {session ticket outcome} :
      ComesTo h now (.complete session ticket outcome) (.complete session ticket outcome now)
  | aborted {session} : ComesTo h now (.abort session) (.abort session now)
  | advanced {session} : ComesTo h now (.nextGeneration session) (.nextGeneration session)
  | noticed {session text} :
      ComesTo h now (.postNotice session text) (.postNotice session text now)

/-- What a caller is told of what an operation answers. -/
inductive ToldAs : Answer → Attempt HubAnswer → Prop where
  | done : ToldAs .done (.ok .done)
  | session {s : Session} : ToldAs (.session s) (.ok (.session s))
  | generation {number : Nat} : ToldAs (.generation number) (.ok (.generation number))
  | changed {changed : Bool} : ToldAs (.changed changed) (.ok (.changed changed))
  | queued {depth : Nat} : ToldAs (.depth depth) (.ok (.queued depth))
  | refused {failure : Failure} : ToldAs (.refused failure) (.error failure)

namespace ToldAs

/-- An attempt is told as it went. -/
theorem ofAttempt {α : Type} {wrap : α → Answer} {wrap' : α → HubAnswer}
    (told : ∀ value, ToldAs (wrap value) (.ok (wrap' value))) (answer : Attempt α) :
    ToldAs (.ofAttempt wrap answer) (answer.map wrap') := by
  cases answer with
  | error failure => exact .refused
  | ok value => exact told value

/-- What was attempted either failed, and the caller is told so, or did not. -/
theorem refused_or_ok {α : Type} {a : Answer} {answer : Attempt HubAnswer} {wrap : α → Answer}
    {attempt : Attempt α} (told : ToldAs a answer) (same : a = .ofAttempt wrap attempt) :
    (∃ failure, a = .refused failure ∧ answer = .error failure) ∨
      ∃ value, a = wrap value ∧ ToldAs (wrap value) answer := by
  rw [same] at told ⊢
  cases attempt with
  | error failure =>
    cases told
    exact .inl ⟨failure, rfl, rfl⟩
  | ok value => exact .inr ⟨value, rfl, told⟩

/-- No operation of this kind hands out a turn. -/
theorem ne_opened {a : Answer} {answer : Attempt HubAnswer} (told : ToldAs a answer)
    (turn : OpenedTurn) : answer ≠ .ok (.opened turn) := by
  intro opens
  rw [opens] at told
  cases told

end ToldAs

/-- What answering a request can come to. -/
inductive Answered (h : Hub) (now : Timestamp) :
    HubRequest → HubStep (Attempt HubAnswer) → Prop where
  /-- Sessions are read. -/
  | read {request answer} (reads : request = .list ∨ ∃ session, request = .snapshot session)
      (unopened : ∀ turn, answer ≠ .ok (.opened turn)) : Answered h now request ⟨answer, h, []⟩
  /-- The name of a new session is not acceptable. -/
  | misnamed {session model failure}
      (misnamed : Session.create session model now = .error failure) :
      Answered h now (.create session model) ⟨.error failure, h, []⟩
  /-- An operation is performed that begins no turn. -/
  | worked {request op answer more} (comesTo : ComesTo h now request op)
      (told : ToldAs (h.engine.perform op).answer answer)
      (quiet : ∀ effect ∈ more, effect.isQuiet = true) :
      Answered h now request
        ⟨answer, (h.work (h.engine.perform op)).hub, (h.work (h.engine.perform op)).effects ++ more⟩
  /-- A turn is opened if the session is idle. -/
  | opened {request session prompt suppressPrompt}
      (opens : request = .begin session prompt suppressPrompt ∨
        request = .submit session prompt ∧ suppressPrompt = false)
      (comesTo : operations h.engine request now =
        [.begin session prompt ⟨suppressPrompt, false⟩ 0 now now]) :
      Answered h now request
        (let started := h.startTurn session prompt suppressPrompt now
        ⟨started.answer.map .opened, started.hub, started.effects⟩)
  /-- Stuck turns are stopped. -/
  | scanned {time settings multiAgent} :
      Answered h now (.scan time settings multiAgent)
        (let done := h.scan time settings multiAgent now
        ⟨.ok (.recovered done.answer), done.hub, done.effects⟩)

variable {h : Hub} {now : Timestamp} {request : HubRequest} {op : Operation}

/-- A request that comes to one operation is that operation to the engine. -/
theorem ComesTo.operations_eq (comesTo : ComesTo h now request op) :
    operations h.engine request now = [op] := by
  cases comesTo with
  | created created => simp only [operations, created]
  | queued busy => simp only [operations, busy, if_true]
  | _ => rfl

/-- Such an operation begins no turn. -/
theorem ComesTo.begunTurn?_eq_none (comesTo : ComesTo h now request op) (answer : Answer) :
    begunTurn? op answer = none := by
  cases comesTo <;> rfl

/-- An operation of which nobody but the caller and the waiter is told. -/
theorem Answered.silent {answer : Attempt HubAnswer} (comesTo : ComesTo h now request op)
    (told : ToldAs (h.engine.perform op).answer answer) :
    Answered h now request
      ⟨answer, (h.work (h.engine.perform op)).hub, (h.work (h.engine.perform op)).effects⟩ := by
  have worked : Answered h now request ⟨answer, _, _ ++ []⟩ := .worked comesTo told (by simp)
  rwa [List.append_nil] at worked

/-- An operation that adds a session; if it does, the observer is told. -/
theorem Answered.announced {s : Step (Attempt Unit)} (session : String)
    (comesTo : ComesTo h now request op)
    (performed : h.engine.perform op = s.map (.ofAttempt fun _ => .done)) :
    Answered h now request (announce session (h.work s)) := by
  have answer : (h.engine.perform op).answer = .ofAttempt (fun _ => .done) s.answer := by
    rw [performed]
    rfl
  have same : h.work s =
      ⟨s.answer, (h.work (h.engine.perform op)).hub, (h.work (h.engine.perform op)).effects⟩ := by
    rw [performed]
    rfl
  rw [same, announce]
  -- only what has been done is announced
  cases answered : s.answer with
  | error failure =>
    rw [answered] at answer
    exact .silent comesTo (by rw [answer]; exact .refused)
  | ok =>
    rw [answered] at answer
    exact .worked comesTo (by rw [answer]; exact .done) (by simp [HubEffect.isQuiet])

/-- No turn is open without a session. -/
theorem isProcessing_of_none {session : String} (absent : h.session? session = none) :
    h.engine.isProcessing session = false := by
  rw [Engine.isProcessing, show h.engine.session? session = none from absent]

/-- Whether a turn is open is a matter of the session. -/
theorem isProcessing_of_some {session : String} {s : Session}
    (found : h.session? session = some s) :
    h.engine.isProcessing session = s.isProcessing := by
  rw [Engine.isProcessing, show h.engine.session? session = some s from found]

/-- A prompt is queued behind an open turn, and opens one otherwise. -/
theorem answered_submit (patient : h.agents.areImmediate = false) (session prompt : String)
    (now : Timestamp) : Answered h now (.submit session prompt) (h.submit session prompt now) := by
  cases found : h.session? session with
  | none =>
    have opened : Answered h now (.submit session prompt) _ :=
      .opened (.inr ⟨rfl, rfl⟩) (by simp [operations, isProcessing_of_none found])
    rw [startTurn_of_none found] at opened
    simp only [submit, found]
    exact opened
  | some s =>
    have processing := isProcessing_of_some found
    cases busy : s.isProcessing with
    | false =>
      simp only [submit, found, patient, busy]
      exact .opened (.inr ⟨rfl, rfl⟩) (by simp [operations, processing, busy])
    | true =>
      -- a turn is open, and patient agents are still at it
      have comesTo : ComesTo h now (.submit session prompt) (.enqueue session prompt) :=
        .queued (processing.trans busy)
      have told : ToldAs (h.engine.perform (.enqueue session prompt)).answer
          ((h.work (h.engine.enqueue session prompt)).answer.map .queued) :=
        .ofAttempt (fun _ => .queued) _
      simp only [submit, found, patient, busy, Bool.not_false, Bool.and_self, if_true]
      split
      next refused =>
        rw [refused] at told
        exact .silent comesTo told
      next queued =>
        rw [queued] at told
        exact .worked comesTo told (by simp [HubEffect.isQuiet])

/-- There is nothing else that answering a request can come to. -/
theorem answered (patient : h.agents.areImmediate = false) (request : HubRequest)
    (now : Timestamp) : Answered h now request (h.answer request now) := by
  cases request with
  | create session model =>
    simp only [answer]
    cases created : Session.create session model now with
    | error failure => exact .misnamed created
    | ok s => exact .announced session (.created created) rfl
  | restore s => exact .announced s.name .restored rfl
  | close session =>
    have told : ToldAs (h.engine.perform (.close session)).answer
        ((h.work (h.engine.close session)).answer.map .session) := .ofAttempt (fun _ => .session) _
    simp only [answer]
    split
    next refused =>
      rw [refused] at told
      exact .silent .closed told
    next s closed =>
      rw [closed] at told
      -- Closing reports the end of an open turn as well as of the session.
      rw [List.append_assoc]
      refine .worked .closed told ?_
      cases s.isProcessing <;> simp [HubEffect.isQuiet]
  | setModel session model => exact .silent .remodelled (.ofAttempt (fun _ => .done) _)
  | begin session prompt suppressPrompt => exact .opened (.inl rfl) rfl
  | submit session prompt => exact answered_submit patient session prompt now
  | complete session ticket outcome =>
    exact .worked .completed .changed (by simp [HubEffect.isQuiet])
  | abort session =>
    have told : ToldAs (h.engine.perform (.abort session now)).answer
        ((h.work (h.engine.abort session now)).answer.map .changed) :=
      .ofAttempt (fun _ => .changed) _
    simp only [answer]
    split
    next aborted =>
      rw [aborted] at told
      exact .worked .aborted told (by simp [HubEffect.isQuiet])
    next => exact .silent .aborted told
  | nextGeneration session => exact .silent .advanced (.ofAttempt (fun _ => .generation) _)
  | postNotice session text =>
    have told : ToldAs (h.engine.perform (.postNotice session text now)).answer
        ((h.work (h.engine.postNotice session text now)).answer.map fun _ => .done) :=
      .ofAttempt (fun _ => .done) _
    simp only [answer]
    split
    next refused =>
      rw [refused] at told
      exact .silent .noticed told
    next posted =>
      rw [posted] at told
      exact .worked .noticed told (by simp [HubEffect.isQuiet])
  | snapshot session =>
    simp only [answer]
    split <;> exact .read (.inr ⟨session, rfl⟩) (by simp)
  | list => exact .read (.inl rfl) (by simp)
  | scan time settings multiAgent => exact .scanned

/-- An event comes to one operation; the observer may be told of it. -/
theorem exists_apply_eq (h : Hub) (session : String) (ticket : Nat) (event : StreamEvent)
    (now : Timestamp) :
    let op : Operation := .apply session ticket event now
    ∃ more : List HubEffect, (∀ effect ∈ more, effect.isQuiet = true) ∧
      h.apply session ticket event now =
        ⟨op.hasEnded (h.engine.perform op).answer, (h.work (h.engine.perform op)).hub,
          (h.work (h.engine.perform op)).effects ++ more⟩ := by
  intro op
  have performed : (h.engine.perform op).answer =
      .disposition (h.work (h.engine.apply session ticket event now)).answer := rfl
  simp only [apply]
  split
  next applied =>
    rw [performed, applied]
    exact ⟨[], by simp, by rw [List.append_nil]; rfl⟩
  next ignored =>
    rw [performed, ignored]
    exact ⟨[.observe session (.stale ticket)], by simp [HubEffect.isQuiet], rfl⟩
  next outcome ended =>
    rw [performed, ended]
    exact ⟨[.observe session (.completed ticket outcome)], by simp [HubEffect.isQuiet], rfl⟩

end Hub

end Ensemble
