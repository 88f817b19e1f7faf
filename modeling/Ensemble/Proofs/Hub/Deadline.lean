import Ensemble.Hub.Call
import Ensemble.Proofs.Hub.Record
import Ensemble.Proofs.Hub.Run
import Ensemble.Proofs.Turn.Waiter

/-!
# Calls that time out

When its limit passes, a call asks the hub to abort what is open on the session.  The request names
the session and not the turn of the call, and between the two other messages may be handled.

`expired_call_aborts` says what comes of it in any order of messages.  As long as the outcome of the
call's turn was not sent, no other turn was begun on the session, and the abort cancels this turn.
Once the outcome was sent, the abort cancels whichever turn somebody waits for on the session, and
that is a later one.

The invariant behind it, `Accounts`, is the account of turns and outcomes for agents of any kind,
with one thing more: whoever waits on a session waits for the turn that was begun there last.
-/

namespace Ensemble

open Engine (Operation Answer BegunTurn begunTurn? Accounted)

namespace Engine

variable {now : Timestamp}

/-- Work of the engine begins no turn. -/
theorem Operation.IsWork.begunTurn?_eq_none {op : Operation} (work : op.IsWork now)
    (answer : Answer) : begunTurn? op answer = none := by
  cases op with
  | begin => exact work.elim
  | _ => rfl

/-- Whoever waits after work of the engine has waited before. -/
theorem waited_before_work {e : Engine} (owned : ∀ name, (e.desk name).Owned) {op : Operation}
    (work : op.IsWork now) {name : String} {w : Waiter}
    (found : (e.perform op).engine.waiters.get? name = some w) :
    e.waiters.get? name = some w := by
  rw [waiters_perform, Function.update_apply] at found
  split at found
  next here =>
    -- of what can happen to a waiter, only a new turn puts one there
    have change := (perform_deed e op).waiterChange (owned op.target)
    rw [desk_waiter, desk_waiter, found] at change
    rw [here]
    generalize e.waiters.get? op.target = before at change
    generalize (e.perform op).signals = signals at change
    cases change with
    | kept => rfl
    | begun new =>
      rw [work.begunTurn?_eq_none] at new
      cases new
  next => exact found

/-- Where nobody waits without a session, an abort cancels whoever waits and leaves no turn open. -/
theorem Deed.abort_cancels {name : String} {d d' : Desk} {answer : Answer} {signals : List Signal}
    (deed : Deed (.abort name now) d answer d' signals) (owned : d.Owned) :
    signals = cancelled d.waiter ∧ ∀ s, d'.session = some s → s.isProcessing = false := by
  cases deed with
  | refused fails => cases fails
  | aborted =>
    refine ⟨rfl, ?_⟩
    rintro _ ⟨⟩
    exact Session.stop_isProcessing _ _
  | abortedIdle idle =>
    refine ⟨rfl, ?_⟩
    rintro _ ⟨⟩
    exact idle
  | @abortedNothing _ _ w =>
    -- Nobody waits for a session that does not exist.
    have nobody : w = none := owned rfl
    rw [nobody]
    exact ⟨rfl, fun s found => by cases found⟩

end Engine

namespace Hub

/-- A turn in which an agent was asked is there whatever comes after. -/
theorem turnsAsked_subset (effects more : List HubEffect) :
    turnsAsked effects ⊆ turnsAsked (effects ++ more) := by
  rw [turnsAsked, turnsAsked, List.filterMap_append, List.mapIdx_append]
  exact List.subset_append_left _ _

/-- Effects that ask no agent come with no turn. -/
theorem turnsAsked_append_signals (effects : List HubEffect) (signals : List Signal) :
    turnsAsked (effects ++ signals.map .signal) = turnsAsked effects := by
  refine turnsAsked_append_of_none _ fun effect mem => ?_
  obtain ⟨signal, -, rfl⟩ := List.mem_map.1 mem
  rfl

theorem turnsAsked_append_turnEffects (effects : List HubEffect) (h : Hub) (s : Session)
    (session prompt : String) :
    turnsAsked (effects ++ h.turnEffects s session prompt) =
      turnsAsked effects ++ [⟨session, s.nextTicket, (turnsAsked effects).length + 1⟩] := by
  have split : effects ++ h.turnEffects s session prompt =
      ((effects ++ (Engine.cancelled (h.engine.waiters.get? session)).map .signal) ++
          [.observe session (.started s.nextTicket)]) ++
        [.ask ⟨session, s.model, s.nextTicket⟩ prompt] := by
    simp [turnEffects]
  rw [split, turnsAsked_concat_ask, turnsAsked_append_of_none _ (by simp [HubEffect.asked?]),
    turnsAsked_append_signals]

/-- Only the new turn is waited for on its session, and on the others nothing has changed. -/
theorem waiters_withTurn (h : Hub) (s : Session) (session prompt : String) (suppressPrompt : Bool)
    (now : Timestamp) :
    (h.withTurn s session prompt suppressPrompt now).engine.waiters.get? =
      Function.update h.engine.waiters.get? session
        (some ⟨s.nextTicket, h.opened + 1⟩) := by
  funext name
  simp only [withTurn, Engine.waiter_withDesk, Function.update_apply]

theorem outcomes_turnEffects (h : Hub) (s : Session) (session prompt : String) :
    outcomes (h.turnEffects s session prompt) =
      Engine.cancelled (h.engine.waiters.get? session) := by
  rw [turnEffects, outcomes_append, outcomes_signals]
  simp [outcomes, HubEffect.signal?]

/--
The effects of a hub account for its turns: turns without an outcome are those that somebody waits
for, nobody waits without a session, and whoever waits on a session waits for its last turn.
-/
structure Accounts (effects : List HubEffect) (h : Hub) : Prop where
  opened : (turnsAsked effects).length = h.opened
  accounted : Accounted h.engine.waiters.get? (turnsAsked effects) (outcomes effects)
  owned : ∀ name, (h.engine.desk name).Owned
  latest : ∀ turn ∈ turnsAsked effects, ∀ w,
    h.engine.waiters.get? turn.session = some w → turn.number ≤ w.number

namespace Accounts

variable {effects more : List HubEffect} {h h' : Hub} {now : Timestamp}

theorem start (agents : Agents) : Accounts [] (.start agents) where
  opened := rfl
  accounted := .initial
  owned := fun _ _ => rfl
  latest := by simp [turnsAsked]

/-- Work of the engine keeps the account. -/
theorem work (a : Accounts effects h) {op : Operation} (work : op.IsWork now) :
    Accounts (effects ++ (h.work (h.engine.perform op)).effects)
      (h.work (h.engine.perform op)).hub := by
  have begins := work.begunTurn?_eq_none
  have change := (Engine.perform_deed h.engine op).waiterChange (a.owned op.target)
  have turns : turnsAsked (effects ++ (h.work (h.engine.perform op)).effects) =
      turnsAsked effects := turnsAsked_append_signals _ _
  have sent : outcomes (effects ++ (h.work (h.engine.perform op)).effects) =
      outcomes effects ++ (h.engine.perform op).signals := by
    rw [outcomes_append]
    exact congrArg _ (outcomes_signals _)
  refine ⟨turns ▸ a.opened, ?_, Engine.owned_perform a.owned op, ?_⟩
  · -- Work begins no turn, so the account only gains what was sent.
    have account := a.accounted.change change fun turn begun => by
      rw [begins] at begun
      cases begun
    rw [begins, Option.toList_none, List.append_nil] at account
    rw [turns, sent]
    show Accounted (h.engine.perform op).engine.waiters.get? _ _
    rw [Engine.waiters_perform]
    exact account
  · rw [turns]
    intro turn mem w found
    refine a.latest turn mem w ?_
    exact Engine.waited_before_work a.owned work found

/-- Beginning a turn adds it to the account, and the turn whose place it takes is cancelled. -/
theorem begin (a : Accounts effects h) {session prompt : String} {suppressPrompt : Bool}
    {s : Session} :
    Accounts (effects ++ h.turnEffects s session prompt)
      (h.withTurn s session prompt suppressPrompt now) := by
  have turns := turnsAsked_append_turnEffects effects h s session prompt
  have waiters := h.waiters_withTurn s session prompt suppressPrompt now
  refine ⟨?_, ?_, fun name => ?_, ?_⟩
  · rw [turns, List.length_append, a.opened]
    rfl
  · have begun := Engine.begunTurn?_begin session prompt ⟨suppressPrompt, true⟩ (h.opened + 1)
      s.nextTicket now now
    have account := a.accounted.change
      (.begun begun rfl : Engine.WaiterChange _ _ _ _ _) fun turn new => by
        cases new
        exact congrArg (· + 1) a.opened.symm
    rw [turns, outcomes_append, outcomes_turnEffects, waiters, a.opened]
    exact account
  · simp only [withTurn, Engine.desk_withDesk]
    split
    next => exact fun absent => by cases absent
    next => exact a.owned name
  · intro turn mem w found
    rw [waiters, Function.update_apply] at found
    rw [turns, List.mem_append, List.mem_singleton] at mem
    have le := a.opened
    split at found
    next here =>
      -- the turn just begun comes after all others
      cases found
      rcases mem with old | rfl
      · have := a.accounted.number_le old
        simp only
        omega
      · exact Nat.le_of_eq (congrArg (· + 1) le)
    next elsewhere =>
      rcases mem with old | rfl
      · exact a.latest turn old w found
      · exact absurd rfl elsewhere

/-- Every move keeps the account. -/
theorem move (a : Accounts effects h) (move : Move now h more h') :
    Accounts (effects ++ more) h' := by
  cases move with
  | worked work => exact a.work work
  | begun => exact a.begin
  | @told effect word =>
    have turns := turnsAsked_append_of_none effects
      (List.forall_mem_singleton.2 (HubEffect.asked?_of_isWord word))
    have silent : outcomes [effect] = [] := outcomes_words (List.forall_mem_singleton.2 word)
    refine ⟨turns ▸ a.opened, ?_, a.owned, turns ▸ a.latest⟩
    rw [turns, outcomes_append, silent, List.append_nil]
    exact a.accounted
  | heard agents =>
    rw [List.append_nil]
    exact ⟨a.opened, a.accounted, a.owned, a.latest⟩

/-- Every run keeps the account. -/
theorem run {clock : Timestamp → Prop} (a : Accounts effects h) (run : Run clock h more h') :
    Accounts (effects ++ more) h' := by
  refine run.keeps (P := fun more h => Accounts (effects ++ more) h) ?_ fun _ move a => ?_
  · simpa using a
  · rw [← List.append_assoc]
    exact a.move move

/-- The account is right whichever messages are handled. -/
theorem handleAll (agents : Agents) (messages : List (HubMessage × Timestamp)) :
    Accounts ((Hub.start agents).handleAll messages).2
      ((Hub.start agents).handleAll messages).1 := by
  have run : Run (fun _ => True) (Hub.start agents) _ _ :=
    handleAll_run _ messages fun _ _ => trivial
  exact (start agents).run run

end Accounts

/-- An abort is work of the engine of which the observer and the caller may be told. -/
theorem handle_abort_eq (h : Hub) (caller : Nat) (session : String) (now : Timestamp) :
    ∃ more : List HubEffect, (∀ effect ∈ more, effect.isWord = true) ∧
      h.handle (.request caller (.abort session)) now =
        ((h.work (h.engine.perform (.abort session now))).hub,
          (h.work (h.engine.perform (.abort session now))).effects ++ more) := by
  have drained (answer : Attempt HubAnswer) : drainedAfter? (.abort session) answer = none := rfl
  simp only [handle, drained, answer]
  split
  next =>
    refine ⟨[.stop session, .observe session .aborted, .reply caller (.ok (.changed true))], ?_, ?_⟩
    · simp [HubEffect.isWord]
    · simp only [List.append_assoc]
      rfl
  next => exact ⟨[_], List.forall_mem_singleton.2 rfl, rfl⟩

/-- An abort cancels whoever waits on the session, and no turn is open there afterwards. -/
theorem Accounts.handle_abort {effects : List HubEffect} {h : Hub} (a : Accounts effects h)
    (caller : Nat) (session : String) (now : Timestamp) :
    let aborted := h.handle (.request caller (.abort session)) now
    outcomes aborted.2 = Engine.cancelled (h.engine.waiters.get? session) ∧
      aborted.1.engine.isProcessing session = false := by
  intro aborted
  obtain ⟨more, words, same⟩ := h.handle_abort_eq caller session now
  obtain ⟨signals, idle⟩ :=
    (Engine.perform_deed h.engine (.abort session now)).abort_cancels (a.owned session)
  rw [show aborted = _ from same]
  refine ⟨?_, ?_⟩
  · rw [outcomes_append, outcomes_words words, List.append_nil]
    exact (outcomes_signals _).trans signals
  · unfold Engine.isProcessing
    split
    next s found => exact idle s found
    next => rfl

/-- A turn that is opened on request is among those in which agents were asked, whatever is handled
after it. -/
theorem Accounts.mem_turnsAsked {effects : List HubEffect} {h : Hub} (a : Accounts effects h)
    {session prompt : String} {suppressPrompt : Bool} {now : Timestamp} {turn : OpenedTurn}
    (opened : (h.answer (Call.request session prompt suppressPrompt) now).answer =
      .ok (.opened turn))
    (caller : Nat) (between : List (HubMessage × Timestamp)) :
    ⟨session, turn.ticket, turn.number⟩ ∈ turnsAsked (effects ++
      (h.handleAll ((.request caller (Call.request session prompt suppressPrompt), now) ::
        between)).2) := by
  have time : now = now := rfl
  obtain ⟨more, -, same⟩ :=
    h.handle_request_run time caller (Call.request session prompt suppressPrompt)
  simp only [Call.request, answer] at opened same ⊢
  rw [handleAll_cons, same]
  rcases h.startTurn_cases time session prompt suppressPrompt with
    ⟨failure, fails⟩ | ⟨s, -, -, answered, after, -, begun⟩
  · rw [fails] at opened
    cases opened
  · rw [begun] at opened ⊢
    cases opened
    simp only [List.append_assoc]
    rw [← List.append_assoc]
    refine turnsAsked_subset _ _ ?_
    rw [turnsAsked_append_turnEffects, a.opened]
    exact List.mem_append_right _ (List.mem_singleton_self _)

/--
A call has opened a turn, any messages are handled, and then its limit passes.  What it asks the hub
to do leaves no turn open on the session.  It cancels the turn of the call as long as the outcome of
this turn was not sent, and then no turn was begun on the session since.  If the outcome was sent,
it cancels the later turn of the session that has no outcome yet, and nothing if there is none.
-/
theorem expired_call_aborts (agents : Agents) (before between : List (HubMessage × Timestamp))
    {session prompt : String} {suppressPrompt : Bool} {begunAt : Timestamp} {turn : OpenedTurn}
    (opened : (((start agents).handleAll before).1.answer
      (Call.request session prompt suppressPrompt) begunAt).answer = .ok (.opened turn))
    (caller aborter : Nat) (limit : Span) (now : Timestamp) :
    let begin := HubMessage.request caller (Call.request session prompt suppressPrompt)
    let run := (start agents).handleAll (before ++ (begin, begunAt) :: between)
    let turns := (turnsAsked run.2).filter (·.session = session)
    let sent := (outcomes run.2).map (·.waiter)
    let call := (Call.opening session).hearReply (.ok (.opened turn))
    ∃ request, call.expire limit = (.stopping limit, some request) ∧
      let aborted := run.1.handle (.request aborter request) now
      aborted.1.engine.isProcessing session = false ∧
        (turn.number ∉ sent →
          outcomes aborted.2 = [⟨turn.number, .cancelled⟩] ∧
            ∀ other ∈ turns, other.number ≤ turn.number) ∧
        (turn.number ∈ sent → ∀ other ∈ turns, other.number ∉ sent →
          outcomes aborted.2 = [⟨other.number, .cancelled⟩] ∧ turn.number < other.number) ∧
        ((∀ other ∈ turns, other.number ∈ sent) → outcomes aborted.2 = []) := by
  intro begin run turns sent call
  have a : Accounts run.2 run.1 := .handleAll agents _
  have mem : ⟨session, turn.ticket, turn.number⟩ ∈ turnsAsked run.2 := by
    have all := (Accounts.handleAll agents before).mem_turnsAsked opened caller between
    rw [show run = _ from handleAll_append _ _ _]
    exact all
  refine ⟨.abort session, rfl, ?_⟩
  intro aborted
  obtain ⟨told, idle⟩ := a.handle_abort aborter session now
  -- a turn of the session without an outcome is the one that is waited for, and the last one
  have waited {other : BegunTurn} (there : other ∈ turns) (unsent : other.number ∉ sent) :
      outcomes aborted.2 = [⟨other.number, .cancelled⟩] ∧
        ∀ t ∈ turns, t.number ≤ other.number := by
    obtain ⟨asked, here⟩ := List.mem_filter.1 there
    have waits := (a.accounted.waiting_iff other).1 ⟨asked, unsent⟩
    rw [of_decide_eq_true here] at waits
    refine ⟨?_, fun t mem => ?_⟩
    · rw [show outcomes aborted.2 = _ from told, waits]
      rfl
    · obtain ⟨asked, here⟩ := List.mem_filter.1 mem
      exact a.latest t asked _ (of_decide_eq_true here ▸ waits)
  have own : ⟨session, turn.ticket, turn.number⟩ ∈ turns :=
    List.mem_filter.2 ⟨mem, decide_eq_true rfl⟩
  refine ⟨idle, fun unsent => waited own unsent, fun was other there unsent => ?_, fun all => ?_⟩
  · obtain ⟨cancels, last⟩ := waited there unsent
    refine ⟨cancels, Nat.lt_of_le_of_ne (last _ own) ?_⟩
    intro same
    exact unsent (same ▸ was)
  · rw [show outcomes aborted.2 = _ from told]
    cases waits : run.1.engine.waiters.get? session with
    | none => rfl
    | some w =>
      obtain ⟨asked, unsent⟩ := (a.accounted.waiting_iff ⟨session, w.ticket, w.number⟩).2 waits
      exact absurd (all _ (List.mem_filter.2 ⟨asked, decide_eq_true rfl⟩)) unsent

/-- A call times out while its turn is open and another prompt is queued: its own turn is
cancelled. -/
theorem expired_call_cancels_own_turn :
    let now : Timestamp := ⟨0, 0⟩
    let agents : Agents := .scripted ⟨.empty, none⟩ false
    let before : List (HubMessage × Timestamp) := [(.request 0 (.create "a" "m"), now)]
    let between : List (HubMessage × Timestamp) := [(.request 2 (.submit "a" "two"), now)]
    let request := Call.request "a" "one" false
    let run := (start agents).handleAll (before ++ (.request 1 request, now) :: between)
    (((start agents).handleAll before).1.answer request now).answer = .ok (.opened ⟨1, 1⟩) ∧
      1 ∉ (outcomes run.2).map (·.waiter) ∧
      outcomes (run.1.handle (.request 3 (.abort "a")) now).2 = [⟨1, .cancelled⟩] := by
  intro now agents before between request run
  have opened : (((start agents).handleAll before).1.answer request now).answer =
      .ok (.opened ⟨1, 1⟩) := by decide
  have unsent : 1 ∉ (outcomes run.2).map (·.waiter) := by decide
  obtain ⟨_, expires, -, own, -⟩ :=
    expired_call_aborts agents before between opened 1 3 (.ofSeconds 60) now
  cases expires
  exact ⟨opened, unsent, (own unsent).1⟩

/-- A call times out and asks for an abort, but its turn ends before the hub gets to it.  The queued
prompt of another caller has its turn by then, and this turn is cancelled. -/
theorem expired_call_cancels_next_turn :
    let now : Timestamp := ⟨0, 0⟩
    let agents : Agents := .scripted ⟨.empty, none⟩ false
    let request := Call.request "a" "one" false
    let opened := (start agents).handleAll
      [(.request 0 (.create "a" "m"), now), (.request 1 request, now)]
    let call := ((Call.opening "a").hearReply (.ok (.opened ⟨1, 1⟩))).expire (.ofSeconds 60)
    let ended := opened.1.handleAll
      [(.request 2 (.submit "a" "two"), now), (.streamed "a" 1 .idle, now)]
    call = (.stopping (.ofSeconds 60), some (.abort "a")) ∧
      outcomes opened.2 = [] ∧ outcomes ended.2 = [⟨1, .completed ""⟩] ∧
      turnsAsked (opened.2 ++ ended.2) = [⟨"a", 1, 1⟩, ⟨"a", 2, 2⟩] ∧
      outcomes (ended.1.handle (.request 1 (.abort "a")) now).2 = [⟨2, .cancelled⟩] :=
  ⟨rfl, by decide, by decide, by decide, by decide⟩

end Hub

end Ensemble
