import Ensemble.Proofs.Hub.Run
import Ensemble.Proofs.Turn.Abort
import Ensemble.Proofs.Turn.Ticket

/-!
# Agents that echo

An echoing agent has answered by the time its turn is open, so a turn of it is over as soon as it is
begun: `Hub.exchange` is all that comes of it.  A turn that was open before, as after a restart, is
called off.  What is queued then has its turns in the same way, one after the other, and nothing is
left in the queue (`Hub.drainWithin_of_echoing`); the bound on the turns of a drain is never what
ends it.

So a prompt for an existing session is answered at once, whatever the session was doing
(`Hub.prompt_answered_at_once`).
-/

namespace Ensemble

open Engine (absorb)

/-! ## The session -/

/-- What a turn leaves in the transcript that is answered with one text. -/
def exchangeEntries (prompt : String) (suppressPrompt : Bool) (answer : String)
    (now : Timestamp) : List Entry :=
  (if suppressPrompt then [] else [.ofRole .user prompt now]) ++
    Session.flushed .assistant answer now

namespace Session

/-- The session with a turn begun for a prompt, answered with one text, and ended. -/
def answered (s : Session) (now : Timestamp) (prompt : String) (suppressPrompt : Bool)
    (answer : String) : Session :=
  (absorb (absorb (s.beginTurn now prompt suppressPrompt now) (.content answer) now)
    .idle now).endTurn now (.completed answer)

variable (s : Session) (now : Timestamp) (prompt : String) (suppressPrompt : Bool)
  (answer : String)

/-- Answering a prompt leaves the queue. -/
@[simp] theorem answered_queue :
    (s.answered now prompt suppressPrompt answer).queue = s.queue := by
  simp [answered]

/-- No turn is open once a prompt has been answered. -/
@[simp] theorem answered_isProcessing :
    (s.answered now prompt suppressPrompt answer).isProcessing = false := by
  simp [answered]

/-- Answering a prompt takes up one ticket. -/
@[simp] theorem answered_generation :
    (s.answered now prompt suppressPrompt answer).generation = s.nextTicket := by
  simp [answered]

/-- The answer is all that the turn has brought. -/
theorem absorb_beginTurn_content :
    absorb (s.beginTurn now prompt suppressPrompt now) (.content answer) now =
      { s.beginTurn now prompt suppressPrompt now with
        pendingContent := answer, turnResponse := answer } := by
  have whole : "" ++ answer = answer := String.empty_append
  show { s.beginTurn now prompt suppressPrompt now with
    pendingContent := "" ++ answer, turnResponse := "" ++ answer } = _
  rw [whole]

/-- Flushing leaves the model. -/
theorem flush_model : (s.flush now).model = s.model := by rw [flush_eq]

/-- Answering a prompt leaves the model. -/
@[simp] theorem answered_model :
    (s.answered now prompt suppressPrompt answer).model = s.model := by
  rw [answered, absorb_beginTurn_content]
  simp [absorb, endTurn, closeTurn, setResumed, flush_model]

/-- Answering a prompt puts the exchange in the transcript. -/
theorem answered_transcript :
    (s.answered now prompt suppressPrompt answer).transcript =
      s.transcript ++ exchangeEntries prompt suppressPrompt answer now := by
  let streamed : Session := { s.beginTurn now prompt suppressPrompt now with
    pendingContent := answer, turnResponse := answer }
  have buffered : streamed.buffered now = flushed .assistant answer now := rfl
  have moved : (absorb streamed .idle now).transcript =
      streamed.transcript ++ streamed.buffered now := streamed.flush_transcript_eq now
  have left : (absorb streamed .idle now).buffered now = [] := streamed.buffered_flush now now
  have begun : streamed.transcript = _ := s.beginTurn_transcript now prompt suppressPrompt now
  rw [answered, absorb_beginTurn_content, endTurn_transcript, left, moved, buffered, begun]
  simp [exchangeEntries, Outcome.notices]

end Session

/-! ## One turn -/

namespace Hub

variable {h : Hub} {opening session : String} {s : Session}

/-- All that the hub does in a turn of an echoing agent, from its start to its end. -/
def exchange (opening : String) (turn : TurnLabel) (number : Nat) (prompt : String) :
    List HubEffect :=
  let answer := Agents.echo opening prompt
  [.observe turn.session (.started turn.ticket), .ask turn prompt,
    .signal ⟨number, .completed answer⟩,
    .observe turn.session (.completed turn.ticket (.completed answer))]

/-- The hub after a turn of an echoing agent. -/
def withExchange (h : Hub) (opening : String) (s : Session) (session prompt : String)
    (suppressPrompt : Bool) (now : Timestamp) : Hub :=
  { h with
    engine := h.engine.withDesk session
      ⟨some (s.answered now prompt suppressPrompt (Agents.echo opening prompt)), none⟩
    opened := h.opened + 1 }

section Exchange

variable (h) (s) (opening session prompt : String) (suppressPrompt : Bool) (now : Timestamp)

/-- After an exchange the session has answered. -/
@[simp] theorem session?_withExchange :
    (h.withExchange opening s session prompt suppressPrompt now).session? session =
      some (s.answered now prompt suppressPrompt (Agents.echo opening prompt)) := by
  simp [withExchange, session?]

/-- After an exchange nobody waits. -/
@[simp] theorem waiter_withExchange :
    (h.withExchange opening s session prompt suppressPrompt now).engine.waiters.get? session =
      none := by
  simp [withExchange]

end Exchange

/-- An answer in one chunk completes the open turn with all that has come for it. -/
theorem applyAll_ofText (found : h.session? session = some s) (busy : s.isProcessing = true)
    {number : Nat} (waits : h.engine.waiters.get? session = some ⟨s.generation, number⟩)
    (text : String) (now : Timestamp) :
    let outcome : Outcome := .completed (s.turnResponse ++ text)
    h.applyAll session s.generation now (AgentReply.ofText text).immediateEvents =
      ({ h with
          engine := h.engine.withDesk session
            ⟨some ((absorb (absorb s (.content text) now) .idle now).endTurn now outcome), none⟩ },
        [.signal ⟨number, outcome⟩, .observe session (.completed s.generation outcome)]) := by
  intro outcome
  let streamed := absorb s (.content text) now
  have absorbed : h.engine.apply session s.generation (.content text) now =
      ⟨.applied, h.engine.withDesk session ⟨some streamed, some ⟨s.generation, number⟩⟩, []⟩ := by
    rw [Engine.apply_of_absorbed found busy rfl, waits]
  have response : streamed.turnResponse = s.turnResponse ++ text :=
    Engine.absorb_turnResponse s (.content text) now rfl
  have ends : Engine.outcomeOf? streamed .idle = some outcome := by
    rw [Engine.outcomeOf?, response]
  have found' : (h.engine.withDesk session
      ⟨some streamed, some ⟨s.generation, number⟩⟩).session? session = some streamed := by simp
  have generation : streamed.generation = s.generation := Engine.absorb_generation ..
  obtain ⟨w, signals, ending, ended⟩ :=
    Engine.apply_of_ended found' (by simpa [streamed] using busy) ends now
  -- whoever waits has the ticket of this turn, and so is told
  rw [Engine.waiter_withDesk, if_pos rfl, generation] at ending
  rw [generation, Engine.withDesk_withDesk] at ended
  cases ending with
  | other ne => exact absurd rfl ne
  | told =>
    show h.applyAll session s.generation now [.content text, .idle] = _
    simp only [applyAll, apply, work, absorbed, ended, StreamEvent.isTerminal]
    rfl

/-- A turn of an echoing agent is begun whatever the session is doing, and is over at once. -/
theorem startTurn_of_echoing (echoing : h.agents = .echoing opening)
    (found : h.session? session = some s) (prompt : String) (suppressPrompt : Bool)
    (now : Timestamp) :
    h.startTurn session prompt suppressPrompt now =
      ⟨.ok ⟨s.nextTicket, h.opened + 1⟩,
        h.withExchange opening s session prompt suppressPrompt now,
        (Engine.cancelled (h.engine.waiters.get? session)).map .signal ++
          exchange opening ⟨session, s.model, s.nextTicket⟩ (h.opened + 1) prompt⟩ := by
  have immediate : h.agents.areImmediate = true := by rw [echoing]; rfl
  have asked : h.agents.ask session prompt =
      (.ofText (Agents.echo opening prompt), h.agents) := by rw [echoing]; rfl
  let begun := h.withTurn s session prompt suppressPrompt now
  have found' : begun.session? session = some (s.beginTurn now prompt suppressPrompt now) := by
    simp [begun, withTurn, session?]
  have waits : begun.engine.waiters.get? session =
      some ⟨(s.beginTurn now prompt suppressPrompt now).generation, h.opened + 1⟩ := by
    simp [begun, withTurn]
  -- the whole reply is applied to the turn as it begins, and ends it
  have heard := applyAll_ofText found' rfl waits (Agents.echo opening prompt) now
  rw [Session.beginTurn_generation, Session.beginTurn_turnResponse, String.empty_append] at heard
  have answered : h.withAnswer s session prompt suppressPrompt now =
      (h.withExchange opening s session prompt suppressPrompt now,
        [.signal ⟨h.opened + 1, .completed (Agents.echo opening prompt)⟩,
          .observe session
            (.completed s.nextTicket (.completed (Agents.echo opening prompt)))]) := by
    simp only [withAnswer, asked]
    refine heard.trans ?_
    simp only [begun, withTurn, Engine.withDesk_withDesk]
    rfl
  rw [startTurn_of_immediate immediate found, answered, turnEffects]
  simp [exchange]

/-! ## Draining a queue -/

/-- All that the hub does in turns of echoing agents for prompts of a session, the first of which
gets the given ticket and number.  Tickets are words, and numbers are not. -/
def exchanges (opening session model : String) : Nat → Nat → List String → List HubEffect
  | _, _, [] => []
  | ticket, number, prompt :: rest =>
    exchange opening ⟨session, model, ticket⟩ number prompt ++
      exchanges opening session model (wrap maxWord64 (ticket + 1)) (number + 1) rest

/-- The next prompt of an idle session has its turn, and the drain goes on from there. -/
theorem drainWithin_of_queued (echoing : h.agents = .echoing opening)
    (found : h.session? session = some s) (idle : s.isProcessing = false)
    (nobody : h.engine.waiters.get? session = none) {prompt : String} {rest : List String}
    (queued : s.queue = prompt :: rest) (now : Timestamp) (count : Nat) :
    let next := h.withExchange opening { s with queue := rest } session prompt false now
    h.drainWithin session now (count + 1) =
      ((next.drainWithin session now count).1,
        exchange opening ⟨session, s.model, s.nextTicket⟩ (h.opened + 1) prompt ++
          (next.drainWithin session now count).2) := by
  intro next
  have taken : h.work (h.engine.takeNext session) =
      ⟨some prompt, h.withNextTaken s session rest, []⟩ := by
    rw [Engine.takeNext_of_queued found idle queued]
    rfl
  have found' : (h.withNextTaken s session rest).session? session =
      some { s with queue := rest } := by simp [withNextTaken, session?]
  have nobody' : (h.withNextTaken s session rest).engine.waiters.get? session = none := by
    simp [withNextTaken, nobody]
  -- taking the prompt off and answering it are one change of the desk
  have same : (h.withNextTaken s session rest).withExchange opening { s with queue := rest }
      session prompt false now = next := by
    simp only [withExchange, withNextTaken, Engine.withDesk_withDesk, next]
  have started := startTurn_of_echoing (h := h.withNextTaken s session rest) echoing found'
    prompt false now
  rw [same, nobody'] at started
  rw [drainWithin]
  simp only [taken, started]
  rfl

/-- A drain opens a turn for each queued prompt, in order, and ends when the queue is empty, however
many turns it might open. -/
theorem drainWithin_of_echoing (echoing : h.agents = .echoing opening)
    (found : h.session? session = some s) (idle : s.isProcessing = false)
    (nobody : h.engine.waiters.get? session = none) (now : Timestamp) {count : Nat}
    (enough : s.queue.length ≤ count) :
    ∃ after t, h.drainWithin session now count =
        (after, exchanges opening session s.model s.nextTicket (h.opened + 1) s.queue) ∧
      (after.engine.desk session).AtRest t ∧
      (∀ ticket steps, s.Past ticket steps → t.Past ticket (steps + s.queue.length)) ∧
      t.transcript = s.transcript ++ s.queue.flatMap fun prompt =>
        exchangeEntries prompt false (Agents.echo opening prompt) now := by
  generalize queued : s.queue = queue at enough ⊢
  induction queue generalizing h s count with
  | nil =>
    refine ⟨h, s, drainWithin_of_nothing ?_ now count, ⟨found, idle, queued, nobody⟩,
      fun _ _ past => past, by simp⟩
    intro s' found'
    obtain rfl : s = s' := Option.some.inj (found.symm.trans found')
    exact .inr queued
  -- the first prompt is answered, and the hub after that answers the rest
  | cons prompt rest ih =>
    cases count with
    | zero => exact absurd enough (Nat.not_succ_le_zero _)
    | succ count =>
      obtain ⟨after, t, drained, atRest, past, transcript⟩ :=
        ih (h := h.withExchange opening { s with queue := rest } session prompt false now) echoing
          (h.session?_withExchange ..) (by simp) (h.waiter_withExchange ..) (by simp)
          (Nat.le_of_succ_le_succ enough)
      refine ⟨after, t, ?_, atRest, fun ticket steps past' => ?_, ?_⟩
      · rw [drainWithin_of_queued echoing found idle nobody queued, drained]
        simp [exchanges, withExchange, Session.nextTicket]
      · rw [List.length_cons, Nat.add_comm rest.length, ← Nat.add_assoc]
        exact past ticket (steps + 1) (past'.next (Session.answered_generation ..))
      · rw [transcript, Session.answered_transcript, List.flatMap_cons, List.append_assoc]

/-! ## Agents do not change -/

section Agents

variable (echoing : h.agents = .echoing opening) (now : Timestamp)

/-- Events leave the agents as they are. -/
theorem apply_agents (h : Hub) (session : String) (ticket : Nat) (event : StreamEvent)
    (now : Timestamp) : (h.apply session ticket event now).hub.agents = h.agents := by
  unfold apply
  dsimp only
  split <;> rfl

/-- Stopping stuck turns leaves the agents as they are. -/
theorem recoverAll_agents (now : Timestamp) (turns : List StuckTurn) (h : Hub) :
    (h.recoverAll now turns).hub.agents = h.agents := by
  induction turns generalizing h with
  | nil => rfl
  | cons turn rest ih =>
    refine (ih _).trans ?_
    unfold recover
    dsimp only
    split <;> rfl

include echoing

/-- Echoing agents echo on when a turn is started. -/
theorem startTurn_agents (session prompt : String) (suppressPrompt : Bool) :
    (h.startTurn session prompt suppressPrompt now).hub.agents = .echoing opening := by
  cases found : h.session? session with
  | none =>
    rw [startTurn_of_none found]
    exact echoing
  | some s =>
    rw [startTurn_of_echoing echoing found]
    exact echoing

/-- Echoing agents echo on when a queue is drained. -/
theorem drain_agents (session : String) : (h.drain session now).1.agents = .echoing opening := by
  have within (count : Nat) :
      (h.drainWithin session now count).1.agents = .echoing opening := by
    -- one prompt at a time, as the agents are asked for each
    induction count generalizing h with
    | zero => exact echoing
    | succ count ih =>
      rw [drainWithin]
      dsimp only
      split
      next => exact echoing
      next prompt _ =>
        have started := startTurn_agents (h := (h.work (h.engine.takeNext session)).hub) echoing now
          session prompt false
        split
        next => exact started
        next => exact ih started
  unfold drain
  split
  next => exact within _
  next => exact echoing

/-- Echoing agents echo on whatever is requested. -/
theorem answer_agents (request : HubRequest) :
    (h.answer request now).hub.agents = .echoing opening := by
  cases request with
  | begin session prompt suppressPrompt =>
    exact startTurn_agents echoing now session prompt suppressPrompt
  | submit session prompt =>
    have started := startTurn_agents echoing now session prompt false
    simp only [answer, submit]
    repeat' split
    all_goals first | exact echoing | exact started
  | scan time settings multiAgent => exact (recoverAll_agents now _ h).trans echoing
  | _ =>
    simp only [answer, announce]
    repeat' split
    all_goals exact echoing

/-- Echoing agents echo on whatever message is handled. -/
theorem handle_agents (message : HubMessage) :
    (h.handle message now).1.agents = .echoing opening := by
  cases message with
  | request caller request =>
    have answered := answer_agents echoing now request
    simp only [handle]
    split
    next session _ => exact drain_agents answered now session
    next => exact answered
  | streamed session ticket event =>
    have applied := (h.apply_agents session ticket event now).trans echoing
    simp only [handle]
    split
    next => exact drain_agents applied now session
    next => exact applied
  | shutdown => exact echoing

/-- Echoing agents echo on whatever messages are handled. -/
theorem handleAll_agents (messages : List (HubMessage × Timestamp)) :
    (h.handleAll messages).1.agents = .echoing opening := by
  induction messages generalizing h with
  | nil => exact echoing
  | cons head rest ih => exact ih (handle_agents echoing head.2 head.1)

end Agents

/-! ## Prompts -/

/-- Whether a request asks for a turn of a session, at once or behind an open one. -/
def AsksFor (session prompt : String) (suppressPrompt : Bool) (request : HubRequest) : Prop :=
  request = .begin session prompt suppressPrompt ∨
    request = .submit session prompt ∧ suppressPrompt = false

/-- After a request for a turn, the queue of its session is drained. -/
theorem drainedAfter?_of_asksFor {prompt : String} {suppressPrompt : Bool} {request : HubRequest}
    (asks : AsksFor session prompt suppressPrompt request) (answer : Attempt HubAnswer) :
    drainedAfter? request answer = some session := by
  rcases asks with rfl | ⟨rfl, rfl⟩ <;> rfl

/-- A turn is opened for every prompt, and none is queued. -/
theorem answer_of_asksFor (echoing : h.agents = .echoing opening)
    (found : h.session? session = some s) {prompt : String} {suppressPrompt : Bool}
    {request : HubRequest} (asks : AsksFor session prompt suppressPrompt request)
    (now : Timestamp) :
    h.answer request now =
      ⟨.ok (.opened ⟨s.nextTicket, h.opened + 1⟩),
        h.withExchange opening s session prompt suppressPrompt now,
        (Engine.cancelled (h.engine.waiters.get? session)).map .signal ++
          exchange opening ⟨session, s.model, s.nextTicket⟩ (h.opened + 1) prompt⟩ := by
  have immediate : h.agents.areImmediate = true := by rw [echoing]; rfl
  have started := startTurn_of_echoing echoing found prompt suppressPrompt now
  -- a submitted prompt is not queued, as echoing agents are done at once
  rcases asks with rfl | ⟨rfl, rfl⟩
  · simp only [answer, started]
    rfl
  · simp only [answer, submit, found, immediate, Bool.not_true, Bool.and_false,
      Bool.false_eq_true, if_false, started]
    rfl

/--
A hub with echoing agents, whatever messages it has handled, answers every prompt for an existing
session with a turn that is over before the caller has the reply: the turn completes with the
opening and the prompt, and only a turn from before it is called off.  Then the prompts that were
queued have their turns in the same way, each once and in order.  The session is left idle, with an
empty queue and nobody waiting, and there is nothing more to drain.
-/
theorem prompt_answered_at_once (opening : String) (messages : List (HubMessage × Timestamp))
    {session prompt : String} {suppressPrompt : Bool} {request : HubRequest}
    (asks : AsksFor session prompt suppressPrompt request) {s : Session} :
    let h := ((start (.echoing opening)).handleAll messages).1
    h.session? session = some s → ∀ caller now,
    let done := h.handle (.request caller request) now
    done.2 =
      (Engine.cancelled (h.engine.waiters.get? session)).map .signal ++
        exchange opening ⟨session, s.model, s.nextTicket⟩ (h.opened + 1) prompt ++
        .reply caller (.ok (.opened ⟨s.nextTicket, h.opened + 1⟩)) ::
          exchanges opening session s.model (wrap maxWord64 (s.generation + 2)) (h.opened + 2)
            s.queue ∧
    ∃ t, done.1.session? session = some t ∧ t.isProcessing = false ∧ t.queue = [] ∧
      done.1.engine.waiters.get? session = none ∧
      t.generation = wrap maxWord64 (s.generation + 1 + s.queue.length) ∧
      t.transcript = s.transcript ++
        exchangeEntries prompt suppressPrompt (Agents.echo opening prompt) now ++
        s.queue.flatMap (fun queued =>
          exchangeEntries queued false (Agents.echo opening queued) now) ∧
      ∀ count, done.1.drainWithin session now count = (done.1, []) := by
  intro h found caller now done
  have echoing : h.agents = .echoing opening := handleAll_agents rfl messages
  have answered := answer_of_asksFor echoing found asks now
  let opened := h.withExchange opening s session prompt suppressPrompt now
  have found' : opened.session? session = some _ := h.session?_withExchange ..
  have nobody : opened.engine.waiters.get? session = none := h.waiter_withExchange ..
  obtain ⟨after, t, drained, atRest, past, transcript⟩ :=
    drainWithin_of_echoing (h := opened) echoing found' (by simp) nobody now (Nat.le_refl _)
  have ticket := s.answered_generation now prompt suppressPrompt (Agents.echo opening prompt)
  -- the queue starts with the ticket after that of the prompt
  have second : wrap maxWord64 (s.nextTicket + 1) = wrap maxWord64 (s.generation + 2) :=
    s.wrap_nextTicket_add 1
  rw [Session.answered_queue, Session.nextTicket, ticket, second, Session.answered_model] at drained
  rw [Session.answered_queue] at past transcript
  have handled : done = (after,
      ((Engine.cancelled (h.engine.waiters.get? session)).map .signal ++
        exchange opening ⟨session, s.model, s.nextTicket⟩ (h.opened + 1) prompt ++
        [.reply caller (.ok (.opened ⟨s.nextTicket, h.opened + 1⟩))]) ++
          exchanges opening session s.model (wrap maxWord64 (s.generation + 2)) (h.opened + 2)
            s.queue) := by
    simp only [done, handle, drainedAfter?_of_asksFor asks, thenDrain, answered]
    rw [drain, show opened.session? session = _ from found']
    dsimp only
    rw [Session.answered_queue, drained]
    rfl
  refine ⟨?_, t, ?_, atRest.idle, atRest.queue, ?_, ?_, ?_, fun count => ?_⟩
  · rw [handled, List.append_assoc]
    rfl
  · rw [handled]
    exact atRest.session
  · rw [handled]
    exact atRest.nobody
  · rw [(past s.nextTicket 0 (.of_nextTicket ticket)).2, Nat.zero_add, Session.nextTicket,
      wrap_wrap_add]
  · rw [transcript, Session.answered_transcript]
  · rw [handled]
    refine drainWithin_of_nothing (fun s' found => ?_) now count
    obtain rfl : t = s' := Option.some.inj (atRest.session.symm.trans found)
    exact .inr atRest.queue

/-- A session is restored in the midst of a turn, with two prompts queued.  A prompt that is
submitted then has its turn at once, and the queued ones have theirs after it. -/
theorem restored_queue_answered :
    let now : Timestamp := ⟨0, 0⟩
    let restored : Session :=
      { Session.fresh "a" "m" now with queue := ["first", "second"], isProcessing := true }
    let messages : List (HubMessage × Timestamp) := [(.request 0 (.restore restored), now)]
    let h := ((start (.echoing "> ")).handleAll messages).1
    let s := restored.resume now
    let done := h.handle (.request 1 (.submit "a" "go")) now
    AsksFor "a" "go" false (.submit "a" "go") ∧ h.session? "a" = some s ∧
      s.isProcessing = true ∧ s.generation = 1 ∧ s.queue = ["first", "second"] ∧
      done.2 = exchange "> " ⟨"a", "m", 2⟩ 1 "go" ++ .reply 1 (.ok (.opened ⟨2, 1⟩)) ::
        (exchange "> " ⟨"a", "m", 3⟩ 2 "first" ++ exchange "> " ⟨"a", "m", 4⟩ 3 "second") ∧
      outcomes done.2 =
        [⟨1, .completed "> go"⟩, ⟨2, .completed "> first"⟩, ⟨3, .completed "> second"⟩] ∧
      ∃ t, done.1.session? "a" = some t ∧ t.isProcessing = false ∧ t.queue = [] := by
  intro now restored messages h s done
  have asks : AsksFor "a" "go" false (.submit "a" "go") := .inr ⟨rfl, rfl⟩
  have found : h.session? "a" = some s := by decide
  obtain ⟨effects, t, found', idle, empty, -⟩ :=
    prompt_answered_at_once "> " messages asks found 1 now
  have told : done.2 = exchange "> " ⟨"a", "m", 2⟩ 1 "go" ++ .reply 1 (.ok (.opened ⟨2, 1⟩)) ::
      (exchange "> " ⟨"a", "m", 3⟩ 2 "first" ++ exchange "> " ⟨"a", "m", 4⟩ 3 "second") := effects
  refine ⟨asks, found, rfl, rfl, rfl, told, ?_, t, found', idle, empty⟩
  rw [told]
  rfl

end Hub

end Ensemble
