import Ensemble.Proofs.Hub.Answer

/-!
# The hub as a run of moves

Whatever agents the hub has, all that handling messages comes to is a run of *moves* (`Move`): the
engine performs an operation that begins no turn, or a turn is begun and its agent asked, or
somebody is told something, or an immediate agent has answered.  `handleAll_run` says so of all
messages in any order, and what every move keeps is kept by every run (`Run.keeps`).

A run says at which times its moves are made, since that is where the starts of turns come from.
-/

namespace Ensemble

open Engine (Operation)

/-- Whether an effect sends no outcome and asks no agent. -/
def HubEffect.isWord : HubEffect → Bool
  | .signal _ => false
  | .ask _ _ => false
  | _ => true

/-- A word is no signal. -/
theorem HubEffect.signal?_of_isWord {effect : HubEffect} (h : effect.isWord = true) :
    effect.signal? = none := by
  cases effect with
  | signal => cases h
  | _ => rfl

/-- A word asks no agent. -/
theorem HubEffect.asked?_of_isWord {effect : HubEffect} (h : effect.isWord = true) :
    effect.asked? = none := by
  cases effect with
  | ask => cases h
  | _ => rfl

/-- Whether the hub performs an operation at a time without beginning a turn: sessions that it
creates are new, and those it restores are resumed at that time. -/
def Engine.Operation.IsWork (now : Timestamp) : Operation → Prop
  | .create s => ∃ model, s = .fresh s.name model now
  | .restore _ resumedAt => resumedAt = now
  | .begin .. => False
  | _ => True

namespace Hub

/-- The outcomes that effects send, in order. -/
def outcomes (effects : List HubEffect) : List Signal :=
  effects.filterMap HubEffect.signal?

/-- Outcomes are sent in the order of the effects. -/
theorem outcomes_append (effects more : List HubEffect) :
    outcomes (effects ++ more) = outcomes effects ++ outcomes more :=
  List.filterMap_append

/-- The outcomes of signals are these signals. -/
@[simp] theorem outcomes_signals (signals : List Signal) :
    outcomes (signals.map .signal) = signals := by
  rw [outcomes, List.filterMap_map]
  exact List.filterMap_some

/-- Telling things sends no outcome. -/
theorem outcomes_words {words : List HubEffect} (h : ∀ effect ∈ words, effect.isWord = true) :
    outcomes words = [] :=
  List.filterMap_eq_nil_iff.2 fun effect mem => effect.signal?_of_isWord (h effect mem)

/-- What happens in the hub, one thing at a time: the hub before, the effects, and the hub
afterwards. -/
inductive Move (now : Timestamp) : Hub → List HubEffect → Hub → Prop where
  | worked {h : Hub} {op : Operation} (work : op.IsWork now) :
      Move now h (h.work (h.engine.perform op)).effects (h.work (h.engine.perform op)).hub
  | begun {h : Hub} {session prompt : String} {suppressPrompt : Bool} {s : Session}
      (found : h.session? session = some s)
      (free : s.isProcessing = false ∨ h.agents.areImmediate = true) :
      Move now h (h.turnEffects s session prompt)
        (h.withTurn s session prompt suppressPrompt now)
  | told {h : Hub} {effect : HubEffect} (word : effect.isWord = true) : Move now h [effect] h
  /-- An immediate agent has answered. -/
  | heard {h : Hub} (agents : Agents) : Move now h [] { h with agents }

/-- Any number of moves, made at times of which `clock` holds, with their effects in order. -/
inductive Run (clock : Timestamp → Prop) : Hub → List HubEffect → Hub → Prop where
  | stay {h : Hub} : Run clock h [] h
  | next {h h' h'' : Hub} {effects more : List HubEffect} {now : Timestamp}
      (before : Run clock h effects h') (time : clock now) (move : Move now h' more h'') :
      Run clock h (effects ++ more) h''

namespace Run

variable {clock : Timestamp → Prop} {h h' h'' : Hub} {effects more : List HubEffect}
  {now : Timestamp}

/-- A move is a run. -/
theorem single (time : clock now) (move : Move now h effects h') : Run clock h effects h' :=
  .next .stay time move

/-- A run can be followed by another one. -/
theorem trans (first : Run clock h effects h') (second : Run clock h' more h'') :
    Run clock h (effects ++ more) h'' := by
  induction second with
  | stay => simpa using first
  | next _ time move ih =>
    rw [← List.append_assoc]
    exact .next ih time move

/-- Telling things leaves the hub as it is. -/
theorem tell (run : Run clock h effects h') (time : clock now)
    (words : ∀ effect ∈ more, effect.isWord = true) : Run clock h (effects ++ more) h' := by
  induction more generalizing effects with
  | nil => simpa using run
  | cons effect rest ih =>
    obtain ⟨word, words⟩ := List.forall_mem_cons.1 words
    rw [List.append_cons]
    exact ih (.next run time (.told word)) words

/-- What every move keeps, of the effects so far and the hub, is kept by every run. -/
theorem keeps {P : List HubEffect → Hub → Prop} (run : Run clock h effects h') (first : P [] h)
    (step : ∀ {effects more h h' now}, clock now → Move now h more h' → P effects h →
      P (effects ++ more) h') : P effects h' := by
  induction run with
  | stay => exact first
  | next _ time move ih => exact step time move ih

end Run

variable {clock : Timestamp → Prop} {now : Timestamp}

/-- What work of the engine keeps at the desk it is done at, and the beginning of a turn as well,
every move keeps at all desks. -/
theorem Move.keeps_desks {P : String → Desk → Prop} {h h' : Hub} {effects : List HubEffect}
    (move : Move now h effects h')
    (worked : ∀ {op d answer d' signals}, Engine.Deed op d answer d' signals → op.IsWork now →
      P op.target d → P op.target d')
    (begun : ∀ {name s w} prompt suppressPrompt next, P name ⟨some s, w⟩ →
      P name ⟨some (s.beginTurn now prompt suppressPrompt now), some next⟩)
    (holds : ∀ name, P name (h.engine.desk name)) (name : String) :
    P name (h'.engine.desk name) := by
  cases move with
  | @worked op work =>
    show P name ((h.engine.perform op).engine.desk name)
    -- work is done at one desk, and the others are left alone
    by_cases here : name = op.target
    · subst here
      exact worked (Engine.perform_deed h.engine op) work (holds op.target)
    · rw [Engine.perform_desk_of_ne _ _ here]
      exact holds name
  | @begun session prompt suppressPrompt s found =>
    simp only [withTurn, Engine.desk_withDesk]
    split
    next here =>
      subst here
      have desk : h.engine.desk name = ⟨some s, h.engine.waiters.get? name⟩ :=
        congrArg (Desk.mk · _) found
      exact begun prompt suppressPrompt _ (desk ▸ holds name)
    next => exact holds name
  | told | heard => exact holds name

/-! ## Work of the engine -/

/-- Work of the engine, of which others are told. -/
theorem work_run (h : Hub) (time : clock now) (op : Operation) (work : op.IsWork now)
    {more : List HubEffect} (words : ∀ effect ∈ more, effect.isWord = true) :
    Run clock h ((h.work (h.engine.perform op)).effects ++ more)
      (h.work (h.engine.perform op)).hub :=
  (Run.single time (.worked work)).tell time words

/-- Work of the engine of which nobody else is told. -/
theorem silentWork_run (h : Hub) (time : clock now) (op : Operation) (work : op.IsWork now) :
    Run clock h (h.work (h.engine.perform op)).effects (h.work (h.engine.perform op)).hub :=
  .single time (.worked work)

/-- An event is work of the engine. -/
theorem apply_run (h : Hub) (time : clock now) (session : String) (ticket : Nat)
    (event : StreamEvent) :
    Run clock h (h.apply session ticket event now).effects
      (h.apply session ticket event now).hub := by
  have work : (Operation.apply session ticket event now).IsWork now := trivial
  unfold apply
  dsimp only
  split
  next => exact h.silentWork_run time _ work
  next => exact h.work_run time _ work (by simp [HubEffect.isWord])
  next => exact h.work_run time _ work (by simp [HubEffect.isWord])

/-- Applying events one after another is a run. -/
theorem applyAll_run (h : Hub) (time : clock now) (session : String) (ticket : Nat)
    (events : List StreamEvent) :
    Run clock h (h.applyAll session ticket now events).2
      (h.applyAll session ticket now events).1 := by
  induction events generalizing h with
  | nil => exact .stay
  | cons event rest ih =>
    have first := h.apply_run time session ticket event
    rw [applyAll]
    split
    next => exact first
    next => exact first.trans (ih _)

/-! ## Turns -/

/-- The hub with the answer of an immediate agent applied to the turn that was begun for it. -/
def withAnswer (h : Hub) (s : Session) (session prompt : String) (suppressPrompt : Bool)
    (now : Timestamp) : Hub × List HubEffect :=
  let asked := h.agents.ask session prompt
  { h.withTurn s session prompt suppressPrompt now with agents := asked.2 }.applyAll session
    s.nextTicket now asked.1.immediateEvents

/-- For immediate agents a turn is begun at any session, and their answer follows at once. -/
theorem startTurn_of_immediate {h : Hub} {session : String} {s : Session}
    (immediate : h.agents.areImmediate = true) (found : h.session? session = some s)
    (prompt : String) (suppressPrompt : Bool) (now : Timestamp) :
    h.startTurn session prompt suppressPrompt now =
      let answered := h.withAnswer s session prompt suppressPrompt now
      ⟨.ok ⟨s.nextTicket, h.opened + 1⟩, answered.1,
        h.turnEffects s session prompt ++ answered.2⟩ := by
  have begun : h.engine.begin session prompt ⟨suppressPrompt, true⟩ (h.opened + 1) now now =
      ⟨.ok s.nextTicket, (h.withTurn s session prompt suppressPrompt now).engine,
        Engine.cancelled (h.engine.waiters.get? session)⟩ :=
    Engine.begin_of_free found (by simp)
  simp only [startTurn, work, begun, immediate, if_true]
  simp [modelOf, session?, withTurn, turnEffects, withAnswer]

/--
Opening a turn fails and changes nothing, or a turn is begun; what follows then is the answer of an
immediate agent.
-/
theorem startTurn_cases (h : Hub) (time : clock now) (session prompt : String)
    (suppressPrompt : Bool) :
    (∃ failure, h.startTurn session prompt suppressPrompt now = ⟨.error failure, h, []⟩) ∨
      ∃ s, h.session? session = some s ∧
        (s.isProcessing = false ∨ h.agents.areImmediate = true) ∧
        ∃ more after, Run clock (h.withTurn s session prompt suppressPrompt now) more after ∧
          h.startTurn session prompt suppressPrompt now =
            ⟨.ok ⟨s.nextTicket, h.opened + 1⟩, after,
              h.turnEffects s session prompt ++ more⟩ := by
  cases found : h.session? session with
  | none => exact .inl ⟨_, startTurn_of_none found prompt suppressPrompt now⟩
  | some s =>
    cases immediate : h.agents.areImmediate with
    | true =>
      -- the answer comes with the turn: first the agents have it, then its events are applied
      refine .inr ⟨s, rfl, .inr rfl, _, _, ?_,
        startTurn_of_immediate immediate found prompt suppressPrompt now⟩
      exact (Run.single time (.heard _)).trans (applyAll_run _ time _ _ _)
    | false =>
      cases busy : s.isProcessing with
      | true => exact .inl ⟨_, startTurn_of_busy immediate found busy prompt suppressPrompt now⟩
      | false =>
        refine .inr ⟨s, rfl, .inl busy, [], _, .stay, ?_⟩
        rw [List.append_nil]
        exact startTurn_of_idle immediate found busy prompt suppressPrompt now

/-- Starting a turn is a run. -/
theorem startTurn_run (h : Hub) (time : clock now) (session prompt : String)
    (suppressPrompt : Bool) :
    Run clock h (h.startTurn session prompt suppressPrompt now).effects
      (h.startTurn session prompt suppressPrompt now).hub := by
  rcases h.startTurn_cases time session prompt suppressPrompt with
    ⟨failure, same⟩ | ⟨s, found, free, more, after, run, same⟩
  · rw [same]
    exact .stay
  · rw [same]
    exact (Run.single time (.begun found free)).trans run

/-- Taking the next prompt tells nobody. -/
theorem takeNext_run (h : Hub) (time : clock now) (session : String) :
    Run clock h [] (h.work (h.engine.takeNext session)).hub := by
  -- a move of the engine shows its signals, of which there are none here
  have silent : (h.work (h.engine.takeNext session)).effects = [] := by
    simp only [work, Engine.takeNext]
    repeat' split
    all_goals rfl
  rw [← silent]
  exact h.silentWork_run time (.takeNext session) trivial

/-- Draining a queue in bounded steps is a run. -/
theorem drainWithin_run (session : String) (time : clock now) (count : Nat) (h : Hub) :
    Run clock h (h.drainWithin session now count).2 (h.drainWithin session now count).1 := by
  induction count generalizing h with
  | zero => exact .stay
  | succ count ih =>
    have taken := h.takeNext_run time session
    rw [drainWithin]
    dsimp only
    split
    next => exact taken
    next prompt _ =>
      -- each prompt that is taken starts a turn, until one stays open
      have started := taken.trans (startTurn_run _ time session prompt false)
      split
      next => exact started
      next => exact started.trans (ih _)

/-- Draining a queue is a run. -/
theorem drain_run (h : Hub) (time : clock now) (session : String) :
    Run clock h (h.drain session now).2 (h.drain session now).1 := by
  unfold drain
  split
  next => exact drainWithin_run session time _ h
  next => exact .stay

/-! ## Requests -/

/-- Submitting a prompt is a run, whether it starts a turn or is queued. -/
theorem submit_run (h : Hub) (time : clock now) (session prompt : String) :
    Run clock h (h.submit session prompt now).effects (h.submit session prompt now).hub := by
  have queued : (Operation.enqueue session prompt).IsWork now := trivial
  unfold submit
  split
  next => exact .stay
  next =>
    split
    next =>
      dsimp only
      split
      next => exact h.silentWork_run time _ queued
      next => exact h.work_run time _ queued (by simp [HubEffect.isWord])
    next => exact h.startTurn_run time session prompt false

/-- Stopping a stuck turn is a run. -/
theorem recover_run (h : Hub) (time : clock now) (turn : StuckTurn) :
    Run clock h (h.recover turn now).effects (h.recover turn now).hub := by
  have work : (Operation.recover turn.session turn.notice now).IsWork now := trivial
  unfold recover
  dsimp only
  split
  next => exact h.silentWork_run time _ work
  next => exact h.work_run time _ work (by simp [HubEffect.isWord])

/-- Stopping stuck turns one after another is a run. -/
theorem recoverAll_run (time : clock now) (turns : List StuckTurn) (h : Hub) :
    Run clock h (h.recoverAll now turns).effects (h.recoverAll now turns).hub := by
  induction turns generalizing h with
  | nil => exact .stay
  | cons turn rest ih => exact (h.recover_run time turn).trans (ih _)

/-- Adding a session is work of the engine. -/
theorem announce_run (h : Hub) (time : clock now) (session : String) {op : Operation}
    (work : op.IsWork now) {s : Step (Attempt Unit)}
    (performed : h.engine.perform op = s.map (.ofAttempt fun _ => .done)) :
    Run clock h (announce session (h.work s)).effects (announce session (h.work s)).hub := by
  have silent := h.silentWork_run time _ work
  have told : Run clock h (_ ++ [.observe session .created]) _ :=
    h.work_run time _ work (by simp [HubEffect.isWord])
  rw [performed] at silent told
  unfold announce
  split
  next => exact silent
  next => exact told

/-- Answering a request is a run. -/
theorem answer_run (h : Hub) (time : clock now) (request : HubRequest) :
    Run clock h (h.answer request now).effects (h.answer request now).hub := by
  cases request with
  | create session model =>
    simp only [answer]
    cases created : Session.create session model now with
    | error failure => exact .stay
    | ok s =>
      -- a session that is created passes for work only as the fresh one that it is
      have new : (Operation.create s).IsWork now := by
        rw [Session.eq_fresh_of_create created]
        exact ⟨model, rfl⟩
      exact h.announce_run time session new rfl
  | restore s =>
    have resumed : (Operation.restore s now).IsWork now := rfl
    exact h.announce_run time s.name resumed rfl
  | close session =>
    have closed : (Operation.close session).IsWork now := trivial
    simp only [answer]
    split
    next => exact h.silentWork_run time _ closed
    next s _ =>
      rw [List.append_assoc]
      refine h.work_run time _ closed ?_
      cases s.isProcessing <;> simp [HubEffect.isWord]
  | setModel session model => exact h.silentWork_run time (.setModel session model) trivial
  | begin session prompt suppressPrompt => exact h.startTurn_run time session prompt suppressPrompt
  | submit session prompt => exact h.submit_run time session prompt
  | complete session ticket outcome =>
    refine h.work_run time (.complete session ticket outcome now) trivial ?_
    simp [HubEffect.isWord]
  | abort session =>
    have aborted : (Operation.abort session now).IsWork now := trivial
    simp only [answer]
    split
    next => exact h.work_run time _ aborted (by simp [HubEffect.isWord])
    next => exact h.silentWork_run time _ aborted
  | nextGeneration session => exact h.silentWork_run time (.nextGeneration session) trivial
  | postNotice session text =>
    have noticed : (Operation.postNotice session text now).IsWork now := trivial
    simp only [answer]
    split
    next => exact h.silentWork_run time _ noticed
    next => exact h.work_run time _ noticed (by simp [HubEffect.isWord])
  | snapshot session =>
    simp only [answer]
    split <;> exact .stay
  | list => exact .stay
  | scan time' settings multiAgent => exact recoverAll_run time _ h

/-! ## Messages -/

/-- A step that is a run is one with the draining after it. -/
theorem thenDrain_run {h : Hub} {α : Type} {s : HubStep α} (time : clock now)
    (run : Run clock h s.effects s.hub) (session : String) :
    Run clock h (thenDrain s session now).2 (thenDrain s session now).1 :=
  run.trans (s.hub.drain_run time session)

/-- What follows the answer to a request: the reply, and the queue of a session may be drained. -/
theorem handle_request_run (h : Hub) (time : clock now) (caller : Nat) (request : HubRequest) :
    ∃ more, Run clock (h.answer request now).hub more (h.handle (.request caller request) now).1 ∧
      (h.handle (.request caller request) now).2 =
        (h.answer request now).effects ++
          .reply caller (h.answer request now).answer :: more := by
  simp only [handle]
  split
  next session _ =>
    refine ⟨_, (h.answer request now).hub.drain_run time session, ?_⟩
    simp [thenDrain]
  next => exact ⟨[], .stay, rfl⟩

/-- Handling a message is a run. -/
theorem handle_run (h : Hub) (time : clock now) (message : HubMessage) :
    Run clock h (h.handle message now).2 (h.handle message now).1 := by
  cases message with
  | request caller request =>
    obtain ⟨more, run, same⟩ := h.handle_request_run time caller request
    rw [same, List.append_cons]
    exact ((h.answer_run time request).tell time (by simp [HubEffect.isWord])).trans run
  | streamed session ticket event =>
    have applied := h.apply_run time session ticket event
    simp only [handle]
    split
    next => exact thenDrain_run time applied session
    next => exact applied
  | shutdown => exact .stay

/-- The first message is handled first. -/
theorem handleAll_cons (h : Hub) (message : HubMessage) (now : Timestamp)
    (rest : List (HubMessage × Timestamp)) :
    h.handleAll ((message, now) :: rest) =
      (((h.handle message now).1.handleAll rest).1,
        (h.handle message now).2 ++ ((h.handle message now).1.handleAll rest).2) := rfl

/-- Handling messages is a run, in whichever order they come. -/
theorem handleAll_run (h : Hub) (messages : List (HubMessage × Timestamp))
    (times : ∀ message ∈ messages, clock message.2) :
    Run clock h (h.handleAll messages).2 (h.handleAll messages).1 := by
  induction messages generalizing h with
  | nil => exact .stay
  | cons head rest ih =>
    obtain ⟨time, times⟩ := List.forall_mem_cons.1 times
    exact (h.handle_run time head.1).trans (ih _ times)

end Hub

end Ensemble
