import Ensemble.Proofs.Hub.Answer

/-!
# The hub as a run of its engine

With agents that stream in their own time, handling a message is a run of the engine:
`messageOperations` says which operations a message comes to.  The effects of the hub are a record
of the history of that run (`Recorded`): its signals are the outcomes that were sent, and each turn
that was begun has an agent that was asked, in the same order.
-/

namespace Ensemble

open Engine (Operation History BegunTurn begunTurn?)

namespace Hub

/-- The turns in which agents were asked, numbered in order. -/
def turnsAsked (effects : List HubEffect) : List BegunTurn :=
  (effects.filterMap HubEffect.asked?).mapIdx fun i turn => ⟨turn.session, turn.ticket, i + 1⟩

theorem turnsAsked_append_of_none (effects : List HubEffect) {more : List HubEffect}
    (h : ∀ effect ∈ more, effect.asked? = none) :
    turnsAsked (effects ++ more) = turnsAsked effects := by
  have none : more.filterMap HubEffect.asked? = [] := List.filterMap_eq_nil_iff.2 h
  rw [turnsAsked, List.filterMap_append, none, List.append_nil, turnsAsked]

theorem turnsAsked_concat_ask (effects : List HubEffect) (turn : TurnLabel) (prompt : String) :
    turnsAsked (effects ++ [.ask turn prompt]) =
      turnsAsked effects ++ [⟨turn.session, turn.ticket, (turnsAsked effects).length + 1⟩] := by
  simp [turnsAsked, HubEffect.asked?]

/-! ## The operations that a message comes to -/

/-- The operations that drain the queue of a session. -/
def drainOperations (e : Engine) (session : String) (now : Timestamp) : List Operation :=
  match (e.takeNext session).answer with
  | some prompt => [.takeNext session, .begin session prompt ⟨false, false⟩ 0 now now]
  | none => []

/-- The operations that a message comes to. -/
def messageOperations (h : Hub) (message : HubMessage) (now : Timestamp) : List Operation :=
  match message with
  | .request _ request =>
    let done := h.answer request now
    operations h.engine request now ++
      match drainedAfter? request done.answer with
      | some session => drainOperations done.hub.engine session now
      | none => []
  | .streamed session ticket event =>
    let done := h.apply session ticket event now
    .apply session ticket event now ::
      if done.answer then drainOperations done.hub.engine session now else []
  | .shutdown => []

/-! ## The effects as a record of the run -/

/-- Whether a history has begun the turn that a caller is told of. -/
def HasBegun (history : History) (turn : OpenedTurn) : Prop :=
  ∃ t ∈ history.begun, t.ticket = turn.ticket ∧ t.number = turn.number

/-- The effects of a hub are a record of a history that has come to its engine. -/
structure Recorded (h : Hub) (effects : List HubEffect) (history : History) : Prop where
  patient : h.agents.areImmediate = false
  engine : history.engine = h.engine
  opened : history.begun.length = h.opened
  begun : history.begun = turnsAsked effects
  sent : history.sent = effects.filterMap HubEffect.signal?
  replied : ∀ caller turn, .reply caller (.ok (.opened turn)) ∈ effects → HasBegun history turn

namespace Recorded

theorem start {agents : Agents} (patient : agents.areImmediate = false) :
    Recorded (.start agents) [] .start where
  patient := patient
  engine := rfl
  opened := rfl
  begun := rfl
  sent := rfl
  replied := by simp

variable {h : Hub} {effects : List HubEffect} {history : History}

/-- Quiet effects add nothing to the record. -/
theorem quiet (r : Recorded h effects history) {more : List HubEffect}
    (quiet : ∀ effect ∈ more, effect.isQuiet = true) : Recorded h (effects ++ more) history where
  patient := r.patient
  engine := r.engine
  opened := r.opened
  begun := by
    rw [r.begun, turnsAsked_append_of_none]
    exact fun effect mem => effect.asked?_of_isQuiet (quiet effect mem)
  sent := by
    have none : more.filterMap HubEffect.signal? = [] :=
      List.filterMap_eq_nil_iff.2 fun effect mem => effect.signal?_of_isQuiet (quiet effect mem)
    rw [r.sent, List.filterMap_append, none, List.append_nil]
  replied := by
    intro caller turn mem
    rcases List.mem_append.1 mem with old | new
    · exact r.replied caller turn old
    · exact absurd (quiet _ new) (by simp [HubEffect.isQuiet])

/-- An operation that begins no turn adds the outcomes it sends. -/
theorem work (r : Recorded h effects history) (op : Operation)
    (begins : ∀ answer, begunTurn? op answer = none) :
    Recorded (h.work (h.engine.perform op)).hub (effects ++ (h.work (h.engine.perform op)).effects)
      (history.perform op) := by
  rw [History.perform_of_begins_none begins, r.engine]
  refine ⟨r.patient, rfl, r.opened, ?_, ?_, ?_⟩
  · rw [r.begun]
    refine (turnsAsked_append_of_none _ fun effect mem => ?_).symm
    obtain ⟨signal, -, rfl⟩ := List.mem_map.1 mem
    rfl
  · have all : (h.work (h.engine.perform op)).effects.filterMap HubEffect.signal? =
        (h.engine.perform op).signals := by
      simp only [Hub.work, List.filterMap_map]
      exact List.filterMap_some
    rw [r.sent, List.filterMap_append, all]
  · intro caller turn mem
    rcases List.mem_append.1 mem with old | new
    · exact r.replied caller turn old
    · simp [Hub.work] at new

/-- The same with quiet effects after it. -/
theorem workThen (r : Recorded h effects history) (op : Operation)
    (begins : ∀ answer, begunTurn? op answer = none) {more : List HubEffect}
    (quiet : ∀ effect ∈ more, effect.isQuiet = true) :
    Recorded (h.work (h.engine.perform op)).hub
      (effects ++ ((h.work (h.engine.perform op)).effects ++ more)) (history.perform op) := by
  rw [← List.append_assoc]
  exact (r.work op begins).quiet quiet

/-- A reply may hand out a turn that was begun. -/
theorem reply (r : Recorded h effects history) (caller : Nat) {answer : Attempt HubAnswer}
    (handed : ∀ turn, answer = .ok (.opened turn) → HasBegun history turn) :
    Recorded h (effects ++ [.reply caller answer]) history := by
  -- Only a reply that hands out a turn can break the record.
  by_cases opens : ∃ turn, answer = .ok (.opened turn)
  · refine ⟨r.patient, r.engine, r.opened, ?_, ?_, ?_⟩
    · rw [r.begun, turnsAsked_append_of_none]
      intro effect mem
      rw [List.mem_singleton.1 mem]
      rfl
    · rw [r.sent, List.filterMap_append]
      exact (List.append_nil _).symm
    · intro caller turn mem
      rcases List.mem_append.1 mem with old | new
      · exact r.replied caller turn old
      · refine handed turn ?_
        injection List.mem_singleton.1 new with _ same
        exact same.symm
  · refine r.quiet fun effect mem => ?_
    rw [List.mem_singleton.1 mem]
    unfold HubEffect.isQuiet
    split <;> simp_all

/-- A turn at an idle session adds its agent, and the outcome of a turn still waited for. -/
theorem withTurn (r : Recorded h effects history) (s : Session) (session prompt : String)
    (suppressPrompt : Bool) (now : Timestamp) :
    Recorded (h.withTurn s session prompt suppressPrompt now)
      (effects ++ h.turnEffects s session prompt)
      ⟨(h.withTurn s session prompt suppressPrompt now).engine,
        history.begun ++ [⟨session, s.nextTicket, history.begun.length + 1⟩],
        history.sent ++ Engine.cancelled (h.engine.waiters.get? session)⟩ := by
  generalize signals : Engine.cancelled (h.engine.waiters.get? session) = sent
  -- all but the last of the effects are told to others than the agent
  have split : effects ++ h.turnEffects s session prompt =
      (effects ++ (sent.map .signal ++ [.observe session (.started s.nextTicket)])) ++
        [.ask ⟨session, s.model, s.nextTicket⟩ prompt] := by
    simp [turnEffects, signals]
  have unasked : ∀ effect ∈
      sent.map HubEffect.signal ++ [.observe session (.started s.nextTicket)],
      effect.asked? = none := by
    intro effect mem
    rcases List.mem_append.1 mem with signal | observed
    · obtain ⟨signal, -, rfl⟩ := List.mem_map.1 signal
      rfl
    · rw [List.mem_singleton.1 observed]
      rfl
  refine ⟨r.patient, rfl, ?_, ?_, ?_, ?_⟩
  · rw [List.length_append, r.opened]
    rfl
  · rw [split, turnsAsked_concat_ask, turnsAsked_append_of_none _ unasked, ← r.begun]
  · rw [split, r.sent]
    simp [HubEffect.signal?, Function.comp_def]
  · intro caller turn mem
    rw [split] at mem
    have old : .reply caller (.ok (.opened turn)) ∈ effects := by simpa using mem
    obtain ⟨t, begun, same⟩ := r.replied caller turn old
    exact ⟨t, List.mem_append_left _ begun, same⟩

/-- What opening a turn adds to the record. -/
theorem startTurn (r : Recorded h effects history) (session prompt : String)
    (suppressPrompt : Bool) (now : Timestamp) :
    let started := h.startTurn session prompt suppressPrompt now
    let after := history.perform (.begin session prompt ⟨suppressPrompt, false⟩ 0 now now)
    Recorded started.hub (effects ++ started.effects) after ∧
      ∀ turn, started.answer = .ok turn → HasBegun after turn := by
  intro started after
  have engine := r.engine
  have opened := r.opened
  cases found : h.session? session with
  | none =>
    have same : after = history :=
      History.perform_begin_of_error (by rw [engine]; exact Engine.begin_of_none found) 0
    rw [same, show started = _ from startTurn_of_none found prompt suppressPrompt now]
    exact ⟨by simpa using r, fun turn ok => by cases ok⟩
  | some s =>
    cases busy : s.isProcessing with
    | true =>
      have same : after = history :=
        History.perform_begin_of_error
          (by rw [engine]; exact Engine.begin_of_busy found (by simp [busy])) 0
      rw [same, show started = _ from
        startTurn_of_busy r.patient found busy prompt suppressPrompt now]
      exact ⟨by simpa using r, fun turn ok => by cases ok⟩
    -- The hub counts its turns as the history does, hence the two numbers agree.
    | false =>
      have begun : after = ⟨(h.withTurn s session prompt suppressPrompt now).engine, _, _⟩ :=
        History.perform_begin_of_ok
          (by rw [engine, opened]; exact Engine.begin_of_free found (by simp [busy])) 0
      rw [begun, show started = _ from
        startTurn_of_idle r.patient found busy prompt suppressPrompt now]
      refine ⟨r.withTurn s session prompt suppressPrompt now, fun turn ok => ?_⟩
      cases ok
      exact ⟨_, List.mem_append_right _ (List.mem_singleton_self _), rfl, congrArg (· + 1) opened⟩

/-- What draining a queue adds to the record. -/
theorem drain (r : Recorded h effects history) (session : String) (now : Timestamp) :
    Recorded (h.drain session now).1 (effects ++ (h.drain session now).2)
      (history.performAll (drainOperations h.engine session now)) := by
  by_cases nothing : ∀ s, h.session? session = some s → s.isProcessing = true ∨ s.queue = []
  · rw [drain_of_nothing nothing now, drainOperations, Engine.takeNext_of_nothing nothing]
    simpa using r
  · -- Taking the prompt and starting its turn are two operations of the engine.
    simp only [Classical.not_forall, not_or, Bool.not_eq_true] at nothing
    obtain ⟨s, found, idle, queued⟩ := nothing
    obtain ⟨prompt, rest, queue⟩ := List.exists_cons_of_ne_nil queued
    have taken : h.work (h.engine.takeNext session) =
        ⟨some prompt, h.withNextTaken s session rest, []⟩ := by
      rw [Engine.takeNext_of_queued found idle queue]
      rfl
    have r' : Recorded (h.work (h.engine.takeNext session)).hub
        (effects ++ (h.work (h.engine.takeNext session)).effects)
        (history.perform (.takeNext session)) := r.work (.takeNext session) fun _ => rfl
    rw [taken, List.append_nil] at r'
    rw [drain_of_queued r.patient found idle queue, drainOperations,
      Engine.takeNext_of_queued found idle queue]
    exact (r'.startTurn session prompt false now).1

/-- What stopping stuck turns adds to the record. -/
theorem recoverAll (r : Recorded h effects history) (now : Timestamp) (turns : List StuckTurn) :
    Recorded (h.recoverAll now turns).hub (effects ++ (h.recoverAll now turns).effects)
      (history.performAll (turns.map fun turn => .recover turn.session turn.notice now)) := by
  induction turns generalizing h effects history with
  | nil => simpa [Hub.recoverAll] using r
  | cons turn rest ih =>
    have first : Recorded (h.recover turn now).hub (effects ++ (h.recover turn now).effects)
        (history.perform (.recover turn.session turn.notice now)) := by
      simp only [Hub.recover]
      split
      next => exact r.work (.recover turn.session turn.notice now) fun _ => rfl
      next =>
        exact r.workThen (.recover turn.session turn.notice now) (fun _ => rfl)
          (by simp [HubEffect.isQuiet])
    rw [List.map_cons, History.performAll_cons, Hub.recoverAll, ← List.append_assoc]
    exact ih first

private theorem eq_ok_of_map_opened {answer : Attempt OpenedTurn} {turn : OpenedTurn}
    (opens : answer.map HubAnswer.opened = .ok (.opened turn)) : answer = .ok turn := by
  cases answer with
  | error failure => cases opens
  | ok turn =>
    cases opens
    rfl

/-- What answering a request adds to the record. -/
theorem answer (r : Recorded h effects history) (request : HubRequest) (now : Timestamp) :
    let done := h.answer request now
    let after := history.performAll (operations h.engine request now)
    Recorded done.hub (effects ++ done.effects) after ∧
      ∀ turn, done.answer = .ok (.opened turn) → HasBegun after turn := by
  have answered := answered r.patient request now
  generalize h.answer request now = done at answered
  cases answered with
  | read reads unopened =>
    have none : operations h.engine request now = [] := by
      rcases reads with rfl | ⟨session, rfl⟩ <;> rfl
    rw [none]
    exact ⟨by simpa using r, fun turn opens => absurd opens (unopened turn)⟩
  | misnamed misnamed =>
    simp only [operations, misnamed]
    exact ⟨by simpa using r, fun turn opens => by cases opens⟩
  | worked comesTo told quiet =>
    rw [comesTo.operations_eq]
    exact ⟨r.workThen _ comesTo.begunTurn?_eq_none quiet,
      fun turn opens => absurd opens (told.ne_opened turn)⟩
  | @opened _ session prompt suppressPrompt opens comesTo =>
    rw [comesTo]
    have started := r.startTurn session prompt suppressPrompt now
    exact ⟨started.1, fun turn opens => started.2 turn (eq_ok_of_map_opened opens)⟩
  | scanned => exact ⟨r.recoverAll now _, fun turn opens => by cases opens⟩

/-- What an event adds to the record. -/
theorem apply (r : Recorded h effects history) (session : String) (ticket : Nat)
    (event : StreamEvent) (now : Timestamp) :
    Recorded (h.apply session ticket event now).hub
      (effects ++ (h.apply session ticket event now).effects)
      (history.perform (.apply session ticket event now)) := by
  obtain ⟨more, quiet, same⟩ := h.exists_apply_eq session ticket event now
  rw [same]
  exact r.workThen (.apply session ticket event now) (fun _ => rfl) quiet

/-- What handling a message adds to the record. -/
theorem handle (r : Recorded h effects history) (message : HubMessage) (now : Timestamp) :
    Recorded (h.handle message now).1 (effects ++ (h.handle message now).2)
      (history.performAll (h.messageOperations message now)) := by
  cases message with
  | request caller request =>
    have answered := r.answer request now
    have replied := answered.1.reply caller answered.2
    simp only [Hub.handle, messageOperations, History.performAll_append]
    cases drainedAfter? request (h.answer request now).answer with
    | none => simpa using replied
    | some session =>
      simp only [thenDrain]
      rw [← List.append_assoc, ← List.append_assoc]
      exact replied.drain session now
  | streamed session ticket event =>
    have applied := r.apply session ticket event now
    simp only [Hub.handle, messageOperations, History.performAll_cons]
    cases (h.apply session ticket event now).answer with
    | false => exact applied
    | true =>
      simp only [if_true, thenDrain]
      rw [← List.append_assoc]
      exact applied.drain session now
  | shutdown => simpa [Hub.handle, messageOperations] using r

end Recorded

end Hub

end Ensemble
