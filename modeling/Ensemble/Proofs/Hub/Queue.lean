import Ensemble.Proofs.Hub.Record
import Ensemble.Proofs.Turn.Queue

/-!
# Queued prompts

Prompts of a session get their turns in the order in which they were accepted.  The account of a
session (`marks`) says which prompts were accepted and when those still queued were given up.  By
the account (`settle`) the prompts that are left are those that had their turns, followed by those
that are queued, and while any are queued a turn is open.
-/

namespace Ensemble

open Engine (Operation Answer)

/-- What becomes of the prompts of a session. -/
inductive QueueMark where
  | accepted (prompt : String)
  /-- The prompts that were queued are given up. -/
  | discarded (prompts : List String)
  deriving DecidableEq, Repr

/-- The prompts that are left after a mark; none if those given up are not the last ones. -/
def QueueMark.settle (line : List String) : QueueMark → Option (List String)
  | accepted prompt => some (line ++ [prompt])
  | discarded prompts =>
    if prompts <:+ line then some (line.take (line.length - prompts.length)) else none

/-- The prompt that an effect gives to the agent of a session. -/
def HubEffect.promptFor? (name : String) : HubEffect → Option String
  | .ask turn prompt => if turn.session = name then some prompt else none
  | _ => none

/-- A session that is restored has prompts queued only if a turn was open. -/
def HubRequest.RestoresInTurn : HubRequest → Prop
  | .restore s => s.queue ≠ [] → s.isProcessing = true
  | _ => True

/-- A session that is restored has prompts queued only if a turn was open. -/
def HubMessage.RestoresInTurn : HubMessage → Prop
  | .request _ asked => asked.RestoresInTurn
  | _ => True

namespace Hub

/-- The prompts that are queued under a name. -/
def queue (h : Hub) (name : String) : List String :=
  (h.engine.desk name).queue

/-- The prompts of a session that were given to its agent, in order. -/
def prompts (name : String) (effects : List HubEffect) : List String :=
  effects.filterMap (HubEffect.promptFor? name)

/-- What a request does to the account of a session, if it gets an answer. -/
def marks (h : Hub) (name : String) (request : HubRequest) (answer : Attempt HubAnswer) :
    List QueueMark :=
  match request, answer with
  | .begin session prompt _, .ok _ => if session = name then [.accepted prompt] else []
  | .submit session prompt, .ok _ => if session = name then [.accepted prompt] else []
  | .restore s, .ok _ => if s.name = name then s.queue.map .accepted else []
  | .close session, .ok _ => if session = name then [.discarded (h.queue name)] else []
  | .abort session, .ok (.changed true) =>
    if session = name then [.discarded (h.queue name)] else []
  | .scan .., .ok (.recovered turns) =>
    if name ∈ turns.map (·.session) then [.discarded (h.queue name)] else []
  | _, _ => []

/-- What a message does to the account of a session. -/
def messageMarks (h : Hub) (name : String) (message : HubMessage) (now : Timestamp) :
    List QueueMark :=
  match message with
  | .request _ request => h.marks name request (h.answer request now).answer
  | _ => []

/-- The account of a session while messages are handled. -/
def account (name : String) : Hub → List (HubMessage × Timestamp) → List QueueMark
  | _, [] => []
  | h, (message, now) :: rest =>
    h.messageMarks name message now ++ (h.handle message now).1.account name rest

/-! ## One step of the account -/

/--
What a step makes of a queue: the marks, the prompts whose turns begin, and the queue afterwards.
Turns begin for the first prompts of all that are there and come in.
-/
inductive Turnover (queue : List String) :
    List QueueMark → List String → List String → Prop where
  | served {accepted begun queue' : List String} (h : begun ++ queue' = queue ++ accepted) :
      Turnover queue (accepted.map .accepted) begun queue'
  | emptied : Turnover queue [.discarded queue] [] []

namespace Turnover

variable {queue queue' queue'' begun begun' line : List String} {marks : List QueueMark}

/-- A queue that stays as it is has turned over without marks. -/
theorem same (h : queue' = queue) : Turnover queue [] [] queue' := by
  have nothing : [] ++ queue' = queue ++ [] := by rw [h, List.append_nil, List.nil_append]
  exact served nothing

/-- Accepted prompts stand at the end of the line. -/
theorem settle_accepted (line accepted : List String) :
    (accepted.map QueueMark.accepted).foldlM QueueMark.settle line = some (line ++ accepted) := by
  induction accepted generalizing line with
  | nil => simp
  | cons prompt rest ih =>
    rw [List.map_cons, List.foldlM_cons]
    show ((rest.map QueueMark.accepted).foldlM QueueMark.settle (line ++ [prompt])) = _
    rw [ih, List.append_assoc]
    rfl

/-- A step keeps the prompts that are left in line. -/
theorem settle (h : Turnover queue marks begun queue') (line : List String) :
    marks.foldlM QueueMark.settle (line ++ queue) = some (line ++ begun ++ queue') := by
  cases h with
  | served h => rw [settle_accepted, List.append_assoc, List.append_assoc, h]
  | emptied => simp [QueueMark.settle]

/-- A step may be followed by one that accepts nothing. -/
theorem trans (h : Turnover queue marks begun queue') (next : begun' ++ queue'' = queue') :
    Turnover queue marks (begun ++ begun') queue'' := by
  cases h with
  | served h => exact .served (by rw [List.append_assoc, next, h])
  | emptied =>
    obtain ⟨rfl, rfl⟩ := List.append_eq_nil_iff.1 next
    exact .emptied

end Turnover

/-! ## What the parts of a message make of queues -/

variable {h : Hub} {name session : String}

/-- The queue of a name is that of its session. -/
theorem queue_of_session? {s : Session} (found : h.session? session = some s) :
    h.queue session = s.queue := by
  simp only [queue, Desk.queue, Engine.desk_session]
  rw [show h.engine.session? session = some s from found]

/-- There is no queue without a session. -/
theorem queue_of_none (absent : h.session? session = none) : h.queue session = [] := by
  simp only [queue, Desk.queue, Engine.desk_session]
  rw [show h.engine.session? session = none from absent]

/-- Prompts are put to agents in the order of the effects. -/
theorem prompts_append (effects more : List HubEffect) :
    prompts name (effects ++ more) = prompts name effects ++ prompts name more :=
  List.filterMap_append

/-- Without an agent that is asked, no prompt is given away. -/
theorem prompts_eq_nil {effects : List HubEffect} (h : ∀ effect ∈ effects, effect.asked? = none) :
    prompts name effects = [] := by
  refine List.filterMap_eq_nil_iff.2 fun effect mem => ?_
  have none := h effect mem
  cases effect with
  | ask => cases none
  | _ => rfl

/-- Signals put no prompts. -/
@[simp] theorem prompts_signals (signals : List Signal) :
    prompts name (signals.map .signal) = [] := by
  refine prompts_eq_nil fun effect mem => ?_
  obtain ⟨signal, -, rfl⟩ := List.mem_map.1 mem
  rfl

/-- The queue of a name after an operation of the engine that does not take the next prompt. -/
def queueAfter (h : Hub) (op : Operation) (name : String) : List String :=
  if name = op.target then
    if op.empties (h.engine.perform op).answer then []
    else h.queue name ++ op.queued (h.engine.perform op).answer
  else h.queue name

/-- An operation on another session leaves the queue. -/
theorem queueAfter_of_ne {op : Operation} (h : Hub) (elsewhere : name ≠ op.target) :
    h.queueAfter op name = h.queue name :=
  if_neg elsewhere

/-- An operation that neither empties queues nor adds to them leaves every queue. -/
theorem queueAfter_of_plain {op : Operation}
    (empties : op.empties (h.engine.perform op).answer = false)
    (queued : op.queued (h.engine.perform op).answer = []) (name : String) :
    h.queueAfter op name = h.queue name := by
  rw [queueAfter, empties, queued, List.append_nil]
  simp

/-- Prompts that are queued are accepted in their order. -/
theorem turnover_of_queued (h : Hub) (op : Operation) {accepted : List String}
    (empties : op.empties (h.engine.perform op).answer = false)
    (queued : op.queued (h.engine.perform op).answer = accepted) (name : String) :
    Turnover (h.queue name) (if op.target = name then accepted.map .accepted else []) []
      (h.queueAfter op name) := by
  by_cases here : op.target = name
  · rw [if_pos here, queueAfter, if_pos here.symm, empties, queued]
    exact .served rfl
  · rw [if_neg here, queueAfter_of_ne h (Ne.symm here)]
    exact .same rfl

/-- Where a queue is emptied, all of it is given up. -/
theorem turnover_of_empties (h : Hub) (op : Operation)
    (empties : op.empties (h.engine.perform op).answer = true) (name : String) :
    Turnover (h.queue name) (if op.target = name then [.discarded (h.queue name)] else []) []
      (h.queueAfter op name) := by
  by_cases here : op.target = name
  · rw [if_pos here, queueAfter, if_pos here.symm, empties]
    exact .emptied
  · rw [if_neg here, queueAfter_of_ne h (Ne.symm here)]
    exact .same rfl

/-- An operation changes the queue of the session that it names. -/
theorem queue_work (h : Hub) (op : Operation) (stays : op.isTake = false) (name : String) :
    (h.work (h.engine.perform op)).hub.queue name = h.queueAfter op name := by
  show ((h.engine.perform op).engine.desk name).queue = _
  by_cases here : name = op.target
  · subst here
    rw [queueAfter, if_pos rfl]
    exact (Engine.perform_deed h.engine op).queue_eq stays
  · rw [queueAfter_of_ne h here, Engine.perform_desk_of_ne _ _ here]
    rfl

/-- Every desk of a hub is attended. -/
def Attended (h : Hub) : Prop :=
  ∀ name, (h.engine.desk name).Attended

/-- An operation leaves all desks attended but that of a turn it has ended. -/
theorem attended_work (attended : h.Attended) (op : Operation)
    (inTurn : op.QueuesInTurn (h.engine.desk op.target)) (name : String) :
    ((h.work (h.engine.perform op)).hub.engine.desk name).Attended ∨
      name = op.target ∧ op.hasEnded (h.engine.perform op).answer = true := by
  show ((h.engine.perform op).engine.desk name).Attended ∨ _
  by_cases here : name = op.target
  · subst here
    cases ended : op.hasEnded (h.engine.perform op).answer with
    | false =>
      exact .inl ((Engine.perform_deed h.engine op).attended (attended _) inTurn ended)
    | true => exact .inr ⟨rfl, rfl⟩
  · rw [Engine.perform_desk_of_ne _ _ here]
    exact .inl (attended name)

/-- What an operation makes of queues when no agent is asked. -/
theorem turnover_work {op : Operation} (stays : op.isTake = false) {marks : List QueueMark}
    (turnover : Turnover (h.queue name) marks [] (h.queueAfter op name)) {more : List HubEffect}
    (unasked : ∀ effect ∈ more, effect.asked? = none) :
    Turnover (h.queue name) marks (prompts name ((h.work (h.engine.perform op)).effects ++ more))
      ((h.work (h.engine.perform op)).hub.queue name) := by
  rw [queue_work h op stays name, prompts_append, prompts_eq_nil unasked]
  simpa [work] using turnover

/-- A turn that begins puts one prompt, to its own session. -/
theorem prompts_turnEffects (h : Hub) (s : Session) (session prompt name : String) :
    prompts name (h.turnEffects s session prompt) = if session = name then [prompt] else [] := by
  rw [turnEffects, prompts_append, prompts_signals, List.nil_append]
  by_cases here : session = name <;>
    simp [prompts, List.filterMap_cons, HubEffect.promptFor?, here]

/-- A turn leaves the queue behind it as it is. -/
theorem queue_withTurn (h : Hub) (s : Session) (session prompt : String) (suppressPrompt : Bool)
    (now : Timestamp) (name : String) :
    (h.withTurn s session prompt suppressPrompt now).queue name =
      if name = session then s.queue else h.queue name := by
  simp only [queue, withTurn, Engine.desk_withDesk]
  by_cases here : name = session
  · rw [if_pos here, if_pos here]
    exact Session.beginTurn_queue ..
  · rw [if_neg here, if_neg here]

/-- With a turn open, a session is attended. -/
theorem attended_withTurn {s : Session} {prompt : String} {suppressPrompt : Bool}
    {now : Timestamp} (others : name ≠ session → (h.engine.desk name).Attended) :
    ((h.withTurn s session prompt suppressPrompt now).engine.desk name).Attended := by
  simp only [withTurn, Engine.desk_withDesk]
  by_cases here : name = session
  · rw [if_pos here]
    intro s' found _
    cases found
    exact Session.beginTurn_isProcessing ..
  · rw [if_neg here]
    exact others here

/-- What opening a turn makes of queues. -/
theorem turnover_startTurn (patient : h.agents.areImmediate = false) (attended : h.Attended)
    (session prompt : String) (suppressPrompt : Bool) (now : Timestamp) (name : String) :
    let started := h.startTurn session prompt suppressPrompt now
    Turnover (h.queue name)
        (match started.answer with
          | .ok _ => if session = name then [.accepted prompt] else []
          | .error _ => [])
        (prompts name started.effects) (started.hub.queue name) ∧
      (started.hub.engine.desk name).Attended := by
  intro started
  cases found : h.session? session with
  | none =>
    rw [show started = _ from startTurn_of_none found prompt suppressPrompt now]
    exact ⟨.same rfl, attended name⟩
  | some s =>
    cases busy : s.isProcessing with
    | true =>
      rw [show started = _ from
        startTurn_of_busy patient found busy prompt suppressPrompt now]
      exact ⟨.same rfl, attended name⟩
    | false =>
      -- an idle session has nothing queued that the new prompt could get ahead of
      have empty : s.queue = [] := (attended session).queue_eq_nil found busy
      rw [show started = _ from
        startTurn_of_idle patient found busy prompt suppressPrompt now]
      refine ⟨?_, attended_withTurn fun _ => attended name⟩
      simp only [prompts_turnEffects, queue_withTurn]
      by_cases here : session = name
      · subst here
        rw [if_pos rfl, if_pos rfl, if_pos rfl, queue_of_session? found, empty]
        have served : [prompt] ++ [] = [] ++ [prompt] := rfl
        exact .served served
      · rw [if_neg here, if_neg here, if_neg (Ne.symm here)]
        exact .same rfl

/-- A drain gives away the first prompts of a queue and leaves its session attended. -/
theorem drain_queue (patient : h.agents.areImmediate = false) (session : String)
    (now : Timestamp) (name : String) :
    prompts name (h.drain session now).2 ++ (h.drain session now).1.queue name = h.queue name ∧
      ((name ≠ session → (h.engine.desk name).Attended) →
        ((h.drain session now).1.engine.desk name).Attended) := by
  by_cases nothing : ∀ s, h.session? session = some s → s.isProcessing = true ∨ s.queue = []
  · rw [drain_of_nothing nothing]
    refine ⟨rfl, fun others => ?_⟩
    by_cases here : name = session
    · intro s found queued
      rw [here] at found
      exact (nothing s found).resolve_right queued
    · exact others here
  · simp only [Classical.not_forall, not_or, Bool.not_eq_true] at nothing
    obtain ⟨s, found, idle, queued⟩ := nothing
    obtain ⟨prompt, rest, queue⟩ := List.exists_cons_of_ne_nil queued
    have found' : (h.withNextTaken s session rest).session? session =
        some { s with queue := rest } := by
      simp [withNextTaken, session?]
    rw [drain_of_queued patient found idle queue,
      startTurn_of_idle (h := h.withNextTaken s session rest) patient found' idle]
    -- the turn that is opened finds the rest of the queue behind it
    have others : name ≠ session →
        (h.withNextTaken s session rest).engine.desk name = h.engine.desk name := by
      intro elsewhere
      rw [withNextTaken, Engine.desk_withDesk, if_neg elsewhere]
    refine ⟨?_, fun attended => attended_withTurn fun elsewhere => ?_⟩
    · simp only [prompts_turnEffects, queue_withTurn]
      by_cases here : session = name
      · subst here
        rw [if_pos rfl, if_pos rfl, queue_of_session? found, queue]
        rfl
      · rw [if_neg here, if_neg (Ne.symm here), Hub.queue, others (Ne.symm here)]
        rfl
    · rw [others elsewhere]
      exact attended elsewhere

/-- Stopping a stuck turn empties the queue behind it. -/
theorem recover_queue (attended : h.Attended) (turn : StuckTurn) (now : Timestamp) :
    let done := h.recover turn now
    done.hub.Attended ∧
      ∀ name, prompts name done.effects = [] ∧
        done.hub.queue name =
          if done.answer = true ∧ turn.session = name then [] else h.queue name := by
  intro done
  have worked : ∀ name, (h.work (h.engine.recover turn.session turn.notice now)).hub.queue name =
      h.queueAfter (.recover turn.session turn.notice now) name :=
    queue_work h (.recover turn.session turn.notice now) rfl
  have attended' : (h.work (h.engine.recover turn.session turn.notice now)).hub.Attended := by
    intro name
    have kept := attended_work attended (.recover turn.session turn.notice now) trivial name
    exact kept.resolve_right fun ended => by cases ended.2
  have performed : (h.engine.perform (.recover turn.session turn.notice now)).answer =
      .ofAttempt .changed (h.engine.recover turn.session turn.notice now).answer := rfl
  -- the queue is emptied only by a recovery that has something to stop
  cases answered : (h.engine.recover turn.session turn.notice now).answer with
  | error failure =>
    rw [show done = _ from recover_of_error answered]
    refine ⟨attended', fun name => ⟨prompts_signals _, ?_⟩⟩
    rw [worked name, queueAfter, performed, answered]
    simp [Operation.empties, Operation.queued, Answer.ofAttempt]
  | ok changed =>
    rw [show done = _ from recover_of_ok answered]
    refine ⟨attended', fun name => ⟨?_, ?_⟩⟩
    · rw [prompts_append]
      simp [work, prompts, HubEffect.promptFor?]
    · rw [worked name, queueAfter, performed, answered]
      simp [Operation.empties, Operation.target, Answer.ofAttempt, eq_comm]

/-- Stopping stuck turns empties the queues behind those that are answered. -/
theorem recoverAll_queue (attended : h.Attended) (turns : List StuckTurn) (now : Timestamp) :
    let done := h.recoverAll now turns
    done.hub.Attended ∧
      ∀ name, prompts name done.effects = [] ∧
        done.hub.queue name =
          if name ∈ done.answer.map (·.session) then [] else h.queue name := by
  induction turns generalizing h with
  | nil => exact ⟨attended, fun name => ⟨rfl, rfl⟩⟩
  | cons turn rest ih =>
    obtain ⟨attended', first⟩ := recover_queue attended turn now
    obtain ⟨attended'', others⟩ := ih attended'
    refine ⟨attended'', fun name => ?_⟩
    simp only [recoverAll, prompts_append, (first name).1, (others name).1, (others name).2,
      (first name).2, List.append_nil, true_and]
    by_cases recovered : (h.recover turn now).answer = true
    · simp only [recovered, if_true, true_and, List.map_cons, List.mem_cons]
      -- whoever is stopped first may be listed again, but its queue is empty by then
      by_cases here : turn.session = name
      · rw [if_pos here, ite_self, if_pos (Or.inl here.symm)]
      · simp only [here, Ne.symm here, false_or, if_false]
    · simp [recovered]

/-- A request that opens a turn has its prompt accepted. -/
theorem marks_opened {request : HubRequest} {session prompt : String} {suppressPrompt : Bool}
    (opens : request = .begin session prompt suppressPrompt ∨
      request = .submit session prompt ∧ suppressPrompt = false)
    (answer : Attempt OpenedTurn) :
    h.marks name request (answer.map .opened) =
      match answer with
      | .ok _ => if session = name then [.accepted prompt] else []
      | .error _ => [] := by
  rcases opens with rfl | ⟨rfl, -⟩ <;> cases answer <;> rfl

/-! ## Requests that come to an operation -/

section ComesTo

variable {request : HubRequest} {now : Timestamp} {op : Operation} {answer : Attempt HubAnswer}

/-- No request takes the next prompt. -/
theorem ComesTo.isTake_eq_false (comesTo : ComesTo h now request op) : op.isTake = false := by
  cases comesTo <;> rfl

/-- Requests queue prompts only where a turn is open. -/
theorem ComesTo.queuesInTurn (comesTo : ComesTo h now request op)
    (inTurn : request.RestoresInTurn) : op.QueuesInTurn (h.engine.desk op.target) := by
  cases comesTo with
  | created created =>
    obtain rfl := Session.eq_fresh_of_create created
    exact fun queued => absurd rfl queued
  | restored => exact inTurn
  | @queued session prompt busy =>
    intro s found
    have processing : h.engine.isProcessing session = s.isProcessing :=
      isProcessing_of_some found
    exact processing.symm.trans busy
  | _ => trivial

/-- When a request has ended a turn, the queue behind it is drained. -/
theorem ComesTo.drainedAfter? (comesTo : ComesTo h now request op)
    (told : ToldAs (h.engine.perform op).answer answer)
    (ended : op.hasEnded (h.engine.perform op).answer = true) :
    drainedAfter? request answer = some op.target := by
  cases comesTo with
  | @completed session ticket outcome =>
    have changed : (h.engine.perform (.complete session ticket outcome now)).answer =
        .changed true := congrArg Answer.changed ended
    rw [changed] at told
    cases told
    rfl
  | _ => cases ended

/-- A request to restore has the queue of the session accepted, if there is no such session yet. -/
theorem turnover_restore (h : Hub) (s : Session)
    (told : ToldAs (h.engine.perform (.restore s now)).answer answer) (name : String) :
    Turnover (h.queue name) (h.marks name (.restore s) answer) []
      (h.queueAfter (.restore s now) name) := by
  rcases told.refused_or_ok rfl with ⟨failure, refused, rfl⟩ | ⟨_, restored, told⟩
  · exact .same (queueAfter_of_plain rfl (by rw [refused]; rfl) name)
  · cases told
    exact turnover_of_queued h (.restore s now) rfl (by rw [restored]; rfl) name

/-- A prompt that is submitted while a turn is open is queued behind all others. -/
theorem turnover_enqueue (h : Hub) (session prompt : String)
    (told : ToldAs (h.engine.perform (.enqueue session prompt)).answer answer) (name : String) :
    Turnover (h.queue name) (h.marks name (.submit session prompt) answer) []
      (h.queueAfter (.enqueue session prompt) name) := by
  rcases told.refused_or_ok rfl with ⟨failure, refused, rfl⟩ | ⟨depth, queued, told⟩
  · exact .same (queueAfter_of_plain rfl (by rw [refused]; rfl) name)
  · cases told
    exact turnover_of_queued h (.enqueue session prompt) rfl (by rw [queued]) name

/-- A request to abort gives up all that is queued, unless there is nothing to abort. -/
theorem turnover_abort (h : Hub) (session : String)
    (told : ToldAs (h.engine.perform (.abort session now)).answer answer) (name : String) :
    Turnover (h.queue name) (h.marks name (.abort session) answer) []
      (h.queueAfter (.abort session now) name) := by
  rcases told.refused_or_ok rfl with ⟨failure, refused, rfl⟩ | ⟨changed, aborted, told⟩
  · exact .same (queueAfter_of_plain (by rw [refused]; rfl) (by rw [refused]; rfl) name)
  · cases told
    cases changed with
    | false =>
      exact .same (queueAfter_of_plain (by rw [aborted]; rfl) (by rw [aborted]; rfl) name)
    | true => exact turnover_of_empties h (.abort session now) (by rw [aborted]; rfl) name

/-- A request to close gives up all that is queued. -/
theorem turnover_close (h : Hub) (session : String)
    (told : ToldAs (h.engine.perform (.close session)).answer answer) (name : String) :
    Turnover (h.queue name) (h.marks name (.close session) answer) []
      (h.queueAfter (.close session) name) := by
  have performed : (h.engine.perform (.close session)).answer =
      .ofAttempt .session (h.engine.close session).answer := rfl
  rw [Engine.close] at performed
  cases found : h.session? session with
  | none =>
    rw [show h.engine.session? session = none from found] at performed
    rw [performed] at told
    cases told
    -- a session that does not exist has nothing queued
    refine .same ?_
    by_cases here : name = session
    · rw [here, queue_of_none found]
      exact if_pos rfl
    · exact queueAfter_of_ne h here
  | some s =>
    rw [show h.engine.session? session = some s from found] at performed
    rw [performed] at told
    cases told
    exact turnover_of_empties h (.close session) rfl name

/-- What a request does to the account is what its operation does to the queue. -/
theorem ComesTo.turnover (comesTo : ComesTo h now request op)
    (told : ToldAs (h.engine.perform op).answer answer) (name : String) :
    Turnover (h.queue name) (h.marks name request answer) [] (h.queueAfter op name) := by
  cases comesTo with
  | @created session model s created =>
    -- a session that was created is new and has an empty queue
    obtain rfl := Session.eq_fresh_of_create created
    have queued : ∀ a, (Operation.create (.fresh session model now)).queued a = [] := by
      intro a
      cases a <;> rfl
    exact .same (queueAfter_of_plain rfl (queued _) name)
  | restored => exact turnover_restore h _ told name
  | closed => exact turnover_close h _ told name
  | queued => exact turnover_enqueue h _ _ told name
  | aborted => exact turnover_abort h _ told name
  | remodelled | completed | advanced | noticed => exact .same (queueAfter_of_plain rfl rfl name)

end ComesTo

/-- What answering a request makes of queues. -/
theorem turnover_answer (patient : h.agents.areImmediate = false) (attended : h.Attended)
    (request : HubRequest) (inTurn : request.RestoresInTurn) (now : Timestamp) (name : String) :
    let done := h.answer request now
    Turnover (h.queue name) (h.marks name request done.answer) (prompts name done.effects)
        (done.hub.queue name) ∧
      ((done.hub.engine.desk name).Attended ∨ drainedAfter? request done.answer = some name) := by
  have answered := answered patient request now
  generalize h.answer request now = done at answered
  cases answered with
  | read reads unopened =>
    rcases reads with rfl | ⟨session, rfl⟩ <;> exact ⟨.same rfl, .inl (attended name)⟩
  | misnamed => exact ⟨.same rfl, .inl (attended name)⟩
  | worked comesTo told quiet =>
    refine ⟨turnover_work comesTo.isTake_eq_false (comesTo.turnover told name)
      fun effect mem => effect.asked?_of_isQuiet (quiet effect mem), ?_⟩
    -- the session is attended still, or its turn has ended and the queue is drained next
    rcases attended_work attended _ (comesTo.queuesInTurn inTurn) name with kept | ended
    · exact .inl kept
    · obtain ⟨rfl, ended⟩ := ended
      exact .inr (comesTo.drainedAfter? told ended)
  | @opened _ session prompt suppressPrompt opens comesTo =>
    have started := turnover_startTurn patient attended session prompt suppressPrompt now name
    refine ⟨?_, .inl started.2⟩
    rw [marks_opened opens]
    exact started.1
  | @scanned time settings multiAgent =>
    obtain ⟨attended', recovered⟩ := recoverAll_queue attended
      (Watchdog.findStuck settings time multiAgent h.engine.sessions.values) now
    refine ⟨?_, .inl (attended' name)⟩
    have emptied := (recovered name).2
    show Turnover (h.queue name)
      (if name ∈ (recoverAll now h _).answer.map (·.session) then _ else [])
      (prompts name (recoverAll now h _).effects) ((recoverAll now h _).hub.queue name)
    rw [(recovered name).1, emptied]
    split
    next => exact .emptied
    next => exact .same rfl

/-- What an event makes of queues. -/
theorem turnover_apply (attended : h.Attended) (session : String) (ticket : Nat)
    (event : StreamEvent) (now : Timestamp) (name : String) :
    let done := h.apply session ticket event now
    Turnover (h.queue name) [] (prompts name done.effects) (done.hub.queue name) ∧
      ((done.hub.engine.desk name).Attended ∨ name = session ∧ done.answer = true) := by
  have turnover :
      Turnover (h.queue name) [] [] (h.queueAfter (.apply session ticket event now) name) :=
    .same (queueAfter_of_plain rfl rfl name)
  obtain ⟨more, quiet, same⟩ := h.exists_apply_eq session ticket event now
  rw [same]
  exact ⟨turnover_work rfl turnover fun effect mem => effect.asked?_of_isQuiet (quiet effect mem),
    attended_work attended (.apply session ticket event now) trivial name⟩

variable {effects : List HubEffect} {history : Engine.History}

/-- Once the session is drained that a piece of work may have left idle, all is attended. -/
theorem turnover_thenDrain {α : Type} (done : HubStep α) {queue : List String}
    {marks : List QueueMark} {session : String}
    (patient : done.hub.agents.areImmediate = false) (now : Timestamp)
    (turnover : Turnover queue marks (prompts name done.effects) (done.hub.queue name))
    (others : name ≠ session → (done.hub.engine.desk name).Attended) :
    Turnover queue marks (prompts name (thenDrain done session now).2)
        ((thenDrain done session now).1.queue name) ∧
      ((thenDrain done session now).1.engine.desk name).Attended := by
  obtain ⟨drained, attended⟩ := drain_queue patient session now name
  simp only [thenDrain]
  rw [prompts_append]
  exact ⟨turnover.trans drained, attended others⟩

/-- What handling a message makes of queues. -/
theorem turnover_handle (r : Recorded h effects history) (attended : h.Attended)
    (message : HubMessage) (inTurn : message.RestoresInTurn) (now : Timestamp) (name : String) :
    Turnover (h.queue name) (h.messageMarks name message now)
        (prompts name (h.handle message now).2) ((h.handle message now).1.queue name) ∧
      ((h.handle message now).1.engine.desk name).Attended := by
  cases message with
  | request caller request =>
    have answered := turnover_answer r.patient attended request inTurn now name
    have patient := (r.answer request now).1.patient
    have replied : Turnover (h.queue name) (h.marks name request (h.answer request now).answer)
        (prompts name ((h.answer request now).effects ++
          [.reply caller (h.answer request now).answer]))
        ((h.answer request now).hub.queue name) := by
      -- replies go to callers, not to agents
      have unasked : prompts name [.reply caller (h.answer request now).answer] = [] := rfl
      rw [prompts_append, unasked, List.append_nil]
      exact answered.1
    simp only [handle, messageMarks]
    cases drained : drainedAfter? request (h.answer request now).answer with
    | none => exact ⟨replied, answered.2.resolve_right (by simp [drained])⟩
    | some session =>
      refine turnover_thenDrain ⟨(h.answer request now).answer, (h.answer request now).hub,
        (h.answer request now).effects ++ [.reply caller (h.answer request now).answer]⟩
        patient now replied fun elsewhere => ?_
      refine answered.2.resolve_right ?_
      rw [drained]
      exact fun same => elsewhere (Option.some.inj same).symm
  | streamed session ticket event =>
    have applied := turnover_apply attended session ticket event now name
    have patient := (r.apply session ticket event now).patient
    simp only [handle, messageMarks]
    cases ended : (h.apply session ticket event now).answer with
    | false => exact ⟨applied.1, applied.2.resolve_right (by simp [ended])⟩
    | true =>
      refine turnover_thenDrain _ patient now applied.1 fun elsewhere => ?_
      exact applied.2.resolve_right fun same => elsewhere same.1
  | shutdown => exact ⟨.same rfl, attended name⟩

/-! ## The account of a run -/

/-- The account of a run keeps the prompts that are left in line. -/
theorem account_handleAll (r : Recorded h effects history) (attended : h.Attended)
    {messages : List (HubMessage × Timestamp)}
    (inTurn : ∀ message ∈ messages, message.1.RestoresInTurn) (name : String)
    (line : List String) :
    (h.account name messages).foldlM QueueMark.settle (line ++ h.queue name) =
        some (line ++ prompts name (h.handleAll messages).2 ++
          (h.handleAll messages).1.queue name) ∧
      (h.handleAll messages).1.Attended := by
  induction messages generalizing h effects history line with
  | nil =>
    refine ⟨?_, attended⟩
    simp [account, handleAll, prompts]
  | cons message rest ih =>
    obtain ⟨message, now⟩ := message
    have handled := turnover_handle r attended message
      (inTurn (message, now) List.mem_cons_self) now
    have later := ih (r.handle message now) (fun name => (handled name).2)
      (fun next mem => inTurn next (List.mem_cons_of_mem _ mem))
      (line ++ prompts name (h.handle message now).2)
    refine ⟨?_, later.2⟩
    -- what had its turn joins the line, and the rest of the run goes on from there
    rw [account, List.foldlM_append, (handled name).1.settle line]
    show (((h.handle message now).1.account name rest).foldlM QueueMark.settle
      (line ++ prompts name (h.handle message now).2 ++ (h.handle message now).1.queue name)) = _
    rw [later.1, handleAll, prompts_append, List.append_assoc line]

/-- Nothing is queued at the start. -/
theorem attended_start (agents : Agents) : (start agents).Attended := by
  intro name s found
  cases found

/--
Whenever a hub is between messages, a session with prompts queued has a turn open.  The prompts that
had their turns, in order, and after them those that are queued are what the account says is left:
all that were accepted, in the order in which they were, without those given up.
-/
theorem prompts_in_line {agents : Agents} (patient : agents.areImmediate = false)
    {messages : List (HubMessage × Timestamp)}
    (inTurn : ∀ message ∈ messages, message.1.RestoresInTurn) (name : String) :
    let run := (start agents).handleAll messages
    (∀ s, run.1.session? name = some s → s.queue ≠ [] → s.isProcessing = true) ∧
      ((start agents).account name messages).foldlM QueueMark.settle [] =
        some (prompts name run.2 ++ run.1.queue name) := by
  obtain ⟨account, attended⟩ :=
    account_handleAll (.start patient) (attended_start agents) inTurn name []
  exact ⟨attended name, account⟩

/-- A restored prompt has its turn, an aborted one has none, and a later one comes after both. -/
theorem aborted_prompt_skipped :
    let now : Timestamp := ⟨0, 0⟩
    let agents : Agents := .scripted ⟨.empty, none⟩ false
    let restored : Session :=
      { Session.fresh "a" "m" now with queue := ["first"], isProcessing := true }
    let messages : List (HubMessage × Timestamp) :=
      [(.request 0 (.restore restored), now), (.request 1 (.submit "a" "second"), now),
        (.streamed "a" 1 .idle, now), (.request 2 (.abort "a"), now),
        (.request 3 (.submit "a" "third"), now), (.request 4 (.submit "a" "fourth"), now)]
    let run := (start agents).handleAll messages
    agents.areImmediate = false ∧ (∀ message ∈ messages, message.1.RestoresInTurn) ∧
      prompts "a" run.2 = ["first", "third"] ∧ run.1.queue "a" = ["fourth"] ∧
      ((start agents).account "a" messages).foldlM QueueMark.settle [] =
        some (prompts "a" run.2 ++ run.1.queue "a") := by
  intro now agents restored messages run
  have inTurn : ∀ message ∈ messages, message.1.RestoresInTurn := by
    simp [messages, HubMessage.RestoresInTurn, HubRequest.RestoresInTurn, restored]
  exact ⟨rfl, inTurn, by decide, by decide, (prompts_in_line rfl inTurn "a").2⟩

end Hub

end Ensemble
