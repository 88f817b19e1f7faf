import Ensemble.Proofs.Hub.Run

/-!
# Who is at work, as an observer sees it

An observer hears of the *milestones* of every session: that it was added or closed, that a turn was
started, and that one was completed, aborted or recovered.  Unless a session is restored in the
middle of a turn, the latest milestone of a session says whether a turn is open there
(`open_iff_latest_started`).

A piece of work of the hub `Reports` on a session if the milestones among its effects account for
what it has made of the turn there.  Reports add up, so that it is enough to look at each piece of
work by itself, and at what the engine does in it by what it answers (`leavesOpen?`).
-/

namespace Ensemble

open Engine (Operation Answer)

/-! ## What operations make of turns -/

/-- Whether a turn is open at a desk. -/
def Desk.isProcessing (d : Desk) : Bool :=
  d.session.any (·.isProcessing)

namespace Engine

/-- Whether a turn is open is seen at the desk. -/
theorem isProcessing_desk (e : Engine) (name : String) :
    (e.desk name).isProcessing = e.isProcessing name := by
  unfold Desk.isProcessing isProcessing
  rw [desk_session]
  cases e.session? name <;> rfl

/-- Whether an operation leaves a turn open at its session, by what it answers; none if it leaves
things there as they were. -/
def Operation.leavesOpen? : Operation → Answer → Option Bool
  | .create s, .done | .restore s _, .done => some s.isProcessing
  | .begin .., .ticket _ => some true
  | .close _, .session _ | .apply .., .disposition (.ended _) | .complete .., .changed true
  | .abort .., .changed true | .recover .., .changed _ => some false
  | _, _ => none

/-- Whether a turn is open after an operation is said by the operation and its answer, or is as it
was. -/
theorem Deed.isProcessing {op : Operation} {d d' : Desk} {answer : Answer} {signals : List Signal}
    (deed : Deed op d answer d' signals) :
    d'.isProcessing = (op.leavesOpen? answer).getD d.isProcessing := by
  cases deed with
  | refused => cases op <;> rfl
  | recoveredIdle idle =>
    -- nothing was open before, and a notice opens nothing
    exact idle
  | advanced | enqueued | noticed => rfl
  | _ => simp [Desk.isProcessing, Operation.leavesOpen?]

/-- Operations make of the turn at their session what their answers say, and leave the turns of all
other sessions alone. -/
theorem isProcessing_perform (e : Engine) (op : Operation) (name : String) :
    (e.perform op).engine.isProcessing name =
      if name = op.target then (op.leavesOpen? (e.perform op).answer).getD (e.isProcessing name)
      else e.isProcessing name := by
  simp only [← isProcessing_desk]
  split
  next here =>
    rw [here]
    exact (perform_deed e op).isProcessing
  next elsewhere => rw [perform_desk_of_ne e op elsewhere]

end Engine

/-! ## Milestones -/

/-- Whether an event tells of a session that comes or goes, or of a turn that starts or ends. -/
def HubEvent.isMilestone : HubEvent → Bool
  | .created | .closed | .started _ | .completed .. | .aborted | .recovered .. => true
  | .queued _ | .stale _ | .noticed _ => false

/-- Whether an event tells of the start of a turn. -/
def HubEvent.isStart : HubEvent → Bool
  | .started _ => true
  | _ => false

/-- Whether the observer hears of a milestone by an effect. -/
@[simp] def HubEffect.isMilestone : HubEffect → Bool
  | .observe _ event => event.isMilestone
  | _ => false

/-- The milestone of a session that the observer hears of by an effect. -/
def HubEffect.milestone? (name : String) : HubEffect → Option HubEvent
  | .observe session event => if session = name && event.isMilestone then some event else none
  | _ => none

/-- What is no milestone is none of any session. -/
theorem HubEffect.milestone?_eq_none {effect : HubEffect} (quiet : effect.isMilestone = false)
    (name : String) : effect.milestone? name = none := by
  cases effect with
  | observe session event =>
    have quiet : event.isMilestone = false := quiet
    simp [milestone?, quiet]
  | _ => rfl

/-- Whether a message restores a session in the middle of a turn. -/
def HubMessage.restoresOpenTurn : HubMessage → Bool
  | .request _ (.restore s) => s.isProcessing
  | _ => false

namespace Hub

/-- The latest milestone of a session. -/
def latest? (name : String) (effects : List HubEffect) : Option HubEvent :=
  (effects.filterMap (·.milestone? name)).getLast?

variable {name : String} {h h' h'' : Hub} {effects more : List HubEffect}

/-- The latest milestone is the latest of what came later, if that has one. -/
theorem latest?_append :
    latest? name (effects ++ more) = (latest? name more).or (latest? name effects) := by
  rw [latest?, List.filterMap_append, List.getLast?_append]
  rfl

/-- Without milestones there is no latest one. -/
theorem latest?_of_quiet (quiet : ∀ effect ∈ effects, effect.isMilestone = false) :
    latest? name effects = none := by
  have nothing : effects.filterMap (·.milestone? name) = [] :=
    List.filterMap_eq_nil_iff.2 fun effect mem =>
      HubEffect.milestone?_eq_none (quiet effect mem) name
  rw [latest?, nothing, List.getLast?_nil]

/-- A milestone of a session is the latest one of that session, and none of any other. -/
theorem latest?_observe {session : String} {event : HubEvent}
    (milestone : event.isMilestone = true) :
    latest? name [.observe session event] = if name = session then some event else none := by
  by_cases here : name = session
  · simp [latest?, HubEffect.milestone?, here, milestone]
  · simp [latest?, HubEffect.milestone?, here, Ne.symm here]

/-- The latest milestone of every session among effects says what has become of the turn there;
where there is none, the turn is as it was. -/
def Reports (h : Hub) (effects : List HubEffect) (h' : Hub) : Prop :=
  ∀ name, h'.engine.isProcessing name =
    ((latest? name effects).map HubEvent.isStart).getD (h.engine.isProcessing name)

namespace Reports

/-- Nothing has happened, and nothing is said. -/
theorem refl (h : Hub) : Reports h [] h := fun _ => rfl

/-- What is reported of one step after another is reported of both. -/
theorem trans (first : Reports h effects h') (second : Reports h' more h'') :
    Reports h (effects ++ more) h'' := by
  intro name
  rw [second name, first name, latest?_append]
  cases latest? name more <;> rfl

/-- Other effects may follow. -/
theorem tell (reports : Reports h effects h')
    (quiet : ∀ effect ∈ more, effect.isMilestone = false) : Reports h (effects ++ more) h' := by
  intro name
  rw [reports name, latest?_append, latest?_of_quiet quiet, Option.none_or]

end Reports

/-! ## Work of the engine -/

section Work

variable {α : Type} {op : Operation} {s : Step α} {wrap : α → Answer} {answer : α}

/-- Outcomes are no milestones. -/
theorem latest?_work (s : Step α) : latest? name (h.work s).effects = none :=
  latest?_of_quiet (by simp [work])

/-- Work that leaves all turns as they are reports without milestones. -/
theorem reports_idle_work (performed : h.engine.perform op = s.map wrap)
    (answered : s.answer = answer) (asBefore : op.leavesOpen? (wrap answer) = none) :
    Reports h (h.work s).effects (h.work s).hub := by
  intro name
  have after := h.engine.isProcessing_perform op name
  rw [performed] at after
  simp only [Step.map, answered, asBefore, Option.getD_none, ite_self] at after
  rw [latest?_work]
  exact after

/-- Work on a turn reports by the milestone that tells of it. -/
theorem reports_work (performed : h.engine.perform op = s.map wrap) (answered : s.answer = answer)
    {event : HubEvent} (leaves : op.leavesOpen? (wrap answer) = some event.isStart)
    (milestone : event.isMilestone = true) (words : List HubEffect)
    (quiet : ∀ effect ∈ words, effect.isMilestone = false) :
    Reports h ((h.work s).effects ++ (words ++ [.observe op.target event])) (h.work s).hub := by
  intro name
  have after := h.engine.isProcessing_perform op name
  rw [performed] at after
  simp only [Step.map, answered, leaves, Option.getD_some] at after
  rw [latest?_append, latest?_append, latest?_work, latest?_of_quiet quiet,
    latest?_observe milestone]
  refine Eq.trans after ?_
  split <;> rfl

end Work

/-- Applying an event reports whether the turn is open. -/
theorem reports_apply (h : Hub) (session : String) (ticket : Nat) (event : StreamEvent)
    (now : Timestamp) :
    Reports h (h.apply session ticket event now).effects
      (h.apply session ticket event now).hub := by
  have performed : h.engine.perform (.apply session ticket event now) = _ := rfl
  unfold apply
  dsimp only
  split
  next applied => exact reports_idle_work performed applied rfl
  next ignored =>
    exact (reports_idle_work performed ignored rfl).tell (by simp [HubEvent.isMilestone])
  next outcome ended => exact reports_work performed ended rfl rfl [] (by simp)

/-- Applying events one after another reports whether the turn is open. -/
theorem reports_applyAll (h : Hub) (session : String) (ticket : Nat) (now : Timestamp)
    (events : List StreamEvent) :
    Reports h (h.applyAll session ticket now events).2
      (h.applyAll session ticket now events).1 := by
  induction events generalizing h with
  | nil => exact .refl h
  | cons event rest ih =>
    have first := h.reports_apply session ticket event now
    rw [applyAll]
    split
    next => exact first
    next => exact first.trans (ih _)

/-! ## Turns -/

/-- A turn that is begun is open, and the observer hears of its start. -/
theorem reports_begun (h : Hub) (s : Session) (session prompt : String) (suppressPrompt : Bool)
    (now : Timestamp) :
    Reports h (h.turnEffects s session prompt)
      (h.withTurn s session prompt suppressPrompt now) := by
  intro name
  have begun : (h.withTurn s session prompt suppressPrompt now).engine.isProcessing name =
      if name = session then true else h.engine.isProcessing name := by
    simp only [← Engine.isProcessing_desk, withTurn, Engine.desk_withDesk]
    split <;> rfl
  -- of all that is told of the turn, its start is the only milestone
  have told : latest? name (h.turnEffects s session prompt) =
      if name = session then some (.started s.nextTicket) else none := by
    rw [turnEffects, List.append_cons, latest?_append, latest?_append, latest?_observe rfl,
      latest?_of_quiet (by simp),
      latest?_of_quiet (by simp), Option.none_or, Option.or_none]
  rw [begun, told]
  split <;> rfl

/-- Starting a turn reports that it is open, unless it is refused or answered at once. -/
theorem reports_startTurn (h : Hub) (session prompt : String) (suppressPrompt : Bool)
    (now : Timestamp) :
    Reports h (h.startTurn session prompt suppressPrompt now).effects
      (h.startTurn session prompt suppressPrompt now).hub := by
  cases found : h.session? session with
  | none =>
    rw [startTurn_of_none found]
    exact .refl h
  | some s =>
    have begun := h.reports_begun s session prompt suppressPrompt now
    -- agents that answer at once may end the turn in the same step
    cases immediate : h.agents.areImmediate with
    | true =>
      rw [startTurn_of_immediate immediate found]
      exact begun.trans (reports_applyAll _ _ _ _ _)
    | false =>
      cases busy : s.isProcessing with
      | true =>
        rw [startTurn_of_busy immediate found busy]
        exact .refl h
      | false =>
        rw [startTurn_of_idle immediate found busy]
        exact begun

/-- Taking the next prompt leaves the turn as it is. -/
theorem reports_takeNext (h : Hub) (session : String) :
    Reports h [] (h.work (h.engine.takeNext session)).hub := by
  intro name
  have performed : h.engine.perform (.takeNext session) = _ := rfl
  have taken := reports_idle_work performed rfl rfl name
  rw [latest?_work] at taken
  exact taken

/-- Draining a queue in bounded steps reports which turn is open. -/
theorem reports_drainWithin (session : String) (now : Timestamp) (count : Nat) (h : Hub) :
    Reports h (h.drainWithin session now count).2 (h.drainWithin session now count).1 := by
  induction count generalizing h with
  | zero => exact .refl h
  | succ count ih =>
    have taken := h.reports_takeNext session
    rw [drainWithin]
    dsimp only
    split
    next => exact taken
    next prompt _ =>
      -- the prompt that was taken starts a turn, and if that has ended, the next one is taken
      have started := taken.trans (reports_startTurn _ session prompt false now)
      split
      next => exact started
      next => exact started.trans (ih _)

/-- Draining a queue reports which turn is open. -/
theorem reports_drain (h : Hub) (session : String) (now : Timestamp) :
    Reports h (h.drain session now).2 (h.drain session now).1 := by
  unfold drain
  split
  next => exact reports_drainWithin session now _ h
  next => exact .refl h

/-! ## Requests -/

/-- Submitting a prompt reports a turn if it starts one. -/
theorem reports_submit (h : Hub) (session prompt : String) (now : Timestamp) :
    Reports h (h.submit session prompt now).effects (h.submit session prompt now).hub := by
  have performed : h.engine.perform (.enqueue session prompt) = _ := rfl
  unfold submit
  split
  next => exact .refl h
  next =>
    split
    next =>
      dsimp only
      split
      next refused => exact reports_idle_work performed refused rfl
      next depth queued =>
        exact (reports_idle_work performed queued rfl).tell (by simp [HubEvent.isMilestone])
    next => exact h.reports_startTurn session prompt false now

/-- Stopping a stuck turn reports that it is not open any more. -/
theorem reports_recover (h : Hub) (turn : StuckTurn) (now : Timestamp) :
    Reports h (h.recover turn now).effects (h.recover turn now).hub := by
  have performed : h.engine.perform (.recover turn.session turn.notice now) = _ := rfl
  unfold recover
  dsimp only
  split
  next refused => exact reports_idle_work performed refused rfl
  next changed stopped =>
    exact reports_work performed stopped rfl rfl
      [.stop turn.session, .observe turn.session (.noticed turn.notice)]
      (by simp [HubEvent.isMilestone])

/-- Stopping stuck turns reports that they are not open any more. -/
theorem reports_recoverAll (now : Timestamp) (turns : List StuckTurn) (h : Hub) :
    Reports h (h.recoverAll now turns).effects (h.recoverAll now turns).hub := by
  induction turns generalizing h with
  | nil => exact .refl h
  | cons turn rest ih => exact (h.reports_recover turn now).trans (ih _)

/-- A session that is added with no turn open is announced. -/
theorem reports_announce (h : Hub) (op : Operation) {s : Step (Attempt Unit)}
    (performed : h.engine.perform op = s.map (.ofAttempt fun _ => .done))
    (refuses : ∀ failure, op.leavesOpen? (.refused failure) = none)
    (idle : op.leavesOpen? .done = some false) :
    Reports h (announce op.target (h.work s)).effects (announce op.target (h.work s)).hub := by
  unfold announce
  split
  next failure refused => exact reports_idle_work performed refused (refuses failure)
  next added =>
    have created : op.leavesOpen? .done = some HubEvent.created.isStart := idle
    exact reports_work performed added created rfl [] (by simp)

/-- Answering a request reports, unless it restores a session in the middle of a turn. -/
theorem reports_answer (h : Hub) {caller : Nat} {request : HubRequest}
    (idle : (HubMessage.request caller request).restoresOpenTurn = false) (now : Timestamp) :
    Reports h (h.answer request now).effects (h.answer request now).hub := by
  cases request with
  | create session model =>
    simp only [answer]
    cases created : Session.create session model now with
    | error failure => exact .refl h
    | ok s =>
      obtain rfl := Session.eq_fresh_of_create created
      exact h.reports_announce (.create (.fresh session model now)) rfl (fun _ => rfl) rfl
  | restore s =>
    exact h.reports_announce (.restore s now) rfl (fun _ => rfl) (congrArg some idle)
  | close session =>
    have performed : h.engine.perform (.close session) = _ := rfl
    simp only [answer]
    split
    next refused => exact reports_idle_work performed refused rfl
    next s closed =>
      rw [List.append_assoc]
      refine reports_work performed closed rfl rfl _ ?_
      cases s.isProcessing <;> simp
  | setModel session model =>
    have performed : h.engine.perform (.setModel session model) = _ := rfl
    exact reports_idle_work performed rfl rfl
  | begin session prompt suppressPrompt =>
    exact h.reports_startTurn session prompt suppressPrompt now
  | submit session prompt => exact h.reports_submit session prompt now
  -- whether the turn ended is in the answer, and only then it is told
  | complete session ticket outcome =>
    have performed : h.engine.perform (.complete session ticket outcome now) = _ := rfl
    cases completed : (h.work (h.engine.complete session ticket outcome now)).answer with
    | true =>
      simp only [answer, completed]
      exact reports_work performed completed rfl rfl [] (by simp)
    | false =>
      simp only [answer, completed]
      exact (reports_idle_work performed completed rfl).tell (by simp [HubEvent.isMilestone])
  | abort session =>
    have performed : h.engine.perform (.abort session now) = _ := rfl
    simp only [answer]
    split
    next aborted => exact reports_work performed aborted rfl rfl [.stop session] (by simp)
    -- nothing was stopped, so that no turn was open
    next other =>
      refine reports_idle_work performed rfl ?_
      cases aborted : (h.engine.abort session now).answer with
      | error failure => rfl
      | ok changed =>
        cases changed with
        | true => exact absurd aborted other
        | false => rfl
  | nextGeneration session =>
    have performed : h.engine.perform (.nextGeneration session) = _ := rfl
    exact reports_idle_work performed rfl rfl
  | postNotice session text =>
    have performed : h.engine.perform (.postNotice session text now) = _ := rfl
    simp only [answer]
    split
    next refused => exact reports_idle_work performed refused rfl
    next noticed =>
      exact (reports_idle_work performed noticed rfl).tell (by simp [HubEvent.isMilestone])
  | snapshot session =>
    simp only [answer]
    split <;> exact .refl h
  | list => exact .refl h
  | scan time settings multiAgent => exact reports_recoverAll now _ h

/-! ## Messages -/

/-- A step that reports does so when a queue is drained after it. -/
theorem reports_thenDrain {α : Type} {s : HubStep α} (reports : Reports h s.effects s.hub)
    (session : String) (now : Timestamp) :
    Reports h (thenDrain s session now).2 (thenDrain s session now).1 :=
  reports.trans (s.hub.reports_drain session now)

/-- Every message is handled with a report, unless it restores an open turn. -/
theorem reports_handle (h : Hub) {message : HubMessage} (idle : message.restoresOpenTurn = false)
    (now : Timestamp) :
    Reports h (h.handle message now).2 (h.handle message now).1 := by
  cases message with
  | request caller request =>
    -- the reply is no milestone
    have replied : Reports h (_ ++ [.reply caller (h.answer request now).answer]) _ :=
      (h.reports_answer idle now).tell (by simp)
    simp only [handle]
    split
    next session _ => exact reports_thenDrain replied session now
    next => exact replied
  | streamed session ticket event =>
    have applied := h.reports_apply session ticket event now
    simp only [handle]
    split
    next => exact reports_thenDrain applied session now
    next => exact applied
  | shutdown => exact .refl h

/-- Handling messages reports on all sessions, in whichever order they come. -/
theorem reports_handleAll (h : Hub) {messages : List (HubMessage × Timestamp)}
    (idle : ∀ message ∈ messages, message.1.restoresOpenTurn = false) :
    Reports h (h.handleAll messages).2 (h.handleAll messages).1 := by
  induction messages generalizing h with
  | nil => exact .refl h
  | cons head rest ih =>
    obtain ⟨first, others⟩ := List.forall_mem_cons.1 idle
    exact (h.reports_handle first _).trans (ih _ others)

/--
After any messages that restore no session in the middle of a turn, a turn is open at a session
exactly if the latest milestone of the session is the start of a turn.
-/
theorem open_iff_latest_started (agents : Agents) {messages : List (HubMessage × Timestamp)}
    (idle : ∀ message ∈ messages, message.1.restoresOpenTurn = false) (name : String) :
    let run := (start agents).handleAll messages
    (∃ s, run.1.session? name = some s ∧ s.isProcessing = true) ↔
      ∃ ticket, latest? name run.2 = some (.started ticket) := by
  intro run
  have reports : run.1.engine.isProcessing name =
      ((latest? name run.2).map HubEvent.isStart).getD false :=
    reports_handleAll (start agents) idle name
  have processing : (∃ s, run.1.session? name = some s ∧ s.isProcessing = true) ↔
      run.1.engine.isProcessing name = true := by
    cases found : run.1.session? name with
    | none => simp [isProcessing_of_none found]
    | some s => simp [isProcessing_of_some found]
  rw [processing, reports]
  -- of the milestones only a start leaves a turn open
  cases latest? name run.2 with
  | none => simp
  | some event => cases event <;> simp [HubEvent.isStart]

/-- A restored session gets two prompts.  When the turn of the first one ends, the second one's
starts, and that turn is the one to be seen. -/
theorem drained_turn_seen :
    let now : Timestamp := ⟨0, 0⟩
    let messages : List (HubMessage × Timestamp) :=
      [(.request 0 (.restore (.fresh "a" "m" now)), now), (.request 1 (.submit "a" "first"), now),
        (.request 2 (.submit "a" "second"), now), (.streamed "a" 1 .idle, now)]
    let run := (start (.scripted ⟨.empty, none⟩ false)).handleAll messages
    (∀ message ∈ messages, message.1.restoresOpenTurn = false) ∧
      latest? "a" run.2 = some (.started 2) ∧
      ∃ s, run.1.session? "a" = some s ∧ s.isProcessing = true := by
  intro now messages run
  have idle : ∀ message ∈ messages, message.1.restoresOpenTurn = false := by decide
  have started : latest? "a" run.2 = some (.started 2) := by decide
  exact ⟨idle, started, (open_iff_latest_started _ idle "a").2 ⟨2, started⟩⟩

end Hub

end Ensemble
