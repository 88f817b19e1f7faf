import Ensemble.Hub.Step
import Ensemble.Proofs.Turn.Deed

/-!
# Opening turns, draining queues and stopping turns

What it comes to when the hub opens a turn, drains the queue of a session or stops a stuck turn, for
agents that stream in their own time.  A drain then opens one turn at most: with it the session is
no longer idle.
-/

namespace Ensemble.Hub

variable {h : Hub} {session : String} {s : Session}

/-- No turn is opened without a session. -/
theorem startTurn_of_none (absent : h.session? session = none) (prompt : String)
    (suppressPrompt : Bool) (now : Timestamp) :
    h.startTurn session prompt suppressPrompt now =
      ⟨.error (.sessionNotFound session), h, []⟩ := by
  simp only [startTurn, work, Engine.begin_of_none absent]
  rfl

/-- No turn is opened over an open one. -/
theorem startTurn_of_busy (patient : h.agents.areImmediate = false)
    (found : h.session? session = some s) (busy : s.isProcessing = true) (prompt : String)
    (suppressPrompt : Bool) (now : Timestamp) :
    h.startTurn session prompt suppressPrompt now =
      ⟨.error (.alreadyProcessing session), h, []⟩ := by
  have refused : h.engine.begin session prompt ⟨suppressPrompt, false⟩
      (h.opened + 1) now now = ⟨.error (.alreadyProcessing session), h.engine, []⟩ :=
    Engine.begin_of_busy found (by simp [busy])
  simp only [startTurn, work, patient, refused]
  rfl

/-- The hub with a turn opened at an idle session. -/
def withTurn (h : Hub) (s : Session) (session prompt : String) (suppressPrompt : Bool)
    (now : Timestamp) : Hub :=
  { h with
    engine := h.engine.withDesk session
      ⟨some (s.beginTurn now prompt suppressPrompt now), some ⟨s.nextTicket, h.opened + 1⟩⟩
    opened := h.opened + 1 }

/-- What the hub does to its surroundings when it opens a turn at an idle session. -/
def turnEffects (h : Hub) (s : Session) (session prompt : String) : List HubEffect :=
  (Engine.cancelled (h.engine.waiters.get? session)).map .signal ++
    [.observe session (.started s.nextTicket),
      .ask ⟨session, s.model, s.nextTicket⟩ prompt]

/-- At an idle session a turn is opened; its agent is asked and has not answered yet. -/
theorem startTurn_of_idle (patient : h.agents.areImmediate = false)
    (found : h.session? session = some s) (idle : s.isProcessing = false) (prompt : String)
    (suppressPrompt : Bool) (now : Timestamp) :
    h.startTurn session prompt suppressPrompt now =
      ⟨.ok ⟨s.nextTicket, h.opened + 1⟩, h.withTurn s session prompt suppressPrompt now,
        h.turnEffects s session prompt⟩ := by
  have begun : h.engine.begin session prompt ⟨suppressPrompt, false⟩
      (h.opened + 1) now now =
        ⟨.ok s.nextTicket, (h.withTurn s session prompt suppressPrompt now).engine,
          Engine.cancelled (h.engine.waiters.get? session)⟩ :=
    Engine.begin_of_free found (by simp [idle])
  simp only [startTurn, work, begun, patient, Bool.false_eq_true, if_false]
  simp [modelOf, session?, withTurn, turnEffects]

/-- Nothing is drained while a turn is open, or from an empty queue. -/
theorem drainWithin_of_nothing
    (nothing : ∀ s, h.session? session = some s → s.isProcessing = true ∨ s.queue = [])
    (now : Timestamp) (count : Nat) : h.drainWithin session now count = (h, []) := by
  cases count with
  | zero => rfl
  | succ count =>
    rw [drainWithin]
    simp only [work, Engine.takeNext_of_nothing nothing]

theorem drain_of_nothing
    (nothing : ∀ s, h.session? session = some s → s.isProcessing = true ∨ s.queue = [])
    (now : Timestamp) : h.drain session now = (h, []) := by
  unfold drain
  cases h.session? session with
  | none => rfl
  | some s => exact drainWithin_of_nothing nothing now _

/-- The hub with the next prompt taken from the queue of a session. -/
def withNextTaken (h : Hub) (s : Session) (session : String) (rest : List String) : Hub :=
  { h with
    engine := h.engine.withDesk session
      ⟨some { s with queue := rest }, h.engine.waiters.get? session⟩ }

/-- The next prompt of an idle session opens a turn, and no other does. -/
theorem drain_of_queued (patient : h.agents.areImmediate = false)
    (found : h.session? session = some s) (idle : s.isProcessing = false) {prompt : String}
    {rest : List String} (queue : s.queue = prompt :: rest) (now : Timestamp) :
    let started := (h.withNextTaken s session rest).startTurn session prompt false now
    h.drain session now = (started.hub, started.effects) := by
  intro started
  have found' : (h.withNextTaken s session rest).session? session =
      some { s with queue := rest } := by
    simp [withNextTaken, session?]
  have opened := startTurn_of_idle (h := h.withNextTaken s session rest) patient found' idle
    prompt false now
  -- what is drained next finds the turn open that has just begun
  have next : ∀ s', started.hub.session? session = some s' →
      s'.isProcessing = true ∨ s'.queue = [] := by
    intro s' found
    rw [show started = _ from opened] at found
    simp only [withTurn, session?, Engine.session?_withDesk, if_true, Option.some.injEq] at found
    rw [← found]
    exact .inl (Session.beginTurn_isProcessing ..)
  have ok : started.answer = .ok ⟨s.nextTicket, h.opened + 1⟩ := by
    rw [show started = _ from opened]
    rfl
  have taken : h.work (h.engine.takeNext session) =
      ⟨some prompt, h.withNextTaken s session rest, []⟩ := by
    rw [Engine.takeNext_of_queued found idle queue]
    rfl
  unfold drain
  simp only [found, queue, List.length_cons, drainWithin, taken]
  rw [ok]
  show ((started.hub.drainWithin session now rest.length).1,
    started.effects ++ (started.hub.drainWithin session now rest.length).2) = _
  rw [drainWithin_of_nothing next, List.append_nil]

/-! ## Stuck turns -/

section Recover

variable {turn : StuckTurn} {now : Timestamp}

theorem recover_of_error {failure : Failure}
    (refused : (h.engine.recover turn.session turn.notice now).answer = .error failure) :
    h.recover turn now =
      let done := h.work (h.engine.recover turn.session turn.notice now)
      ⟨false, done.hub, done.effects⟩ := by
  simp only [recover, work, refused]

/-- A stuck turn that is stopped is reported, and its agent is told to stop. -/
theorem recover_of_ok {changed : Bool}
    (stopped : (h.engine.recover turn.session turn.notice now).answer = .ok changed) :
    h.recover turn now =
      let done := h.work (h.engine.recover turn.session turn.notice now)
      ⟨true, done.hub, done.effects ++
        [.stop turn.session, .observe turn.session (.noticed turn.notice),
          .observe turn.session (.recovered turn.elapsed turn.timeout)]⟩ := by
  simp only [recover, work, stopped]

end Recover

end Ensemble.Hub
