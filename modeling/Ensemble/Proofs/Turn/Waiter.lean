import Ensemble.Proofs.Turn.History
import Ensemble.Proofs.Turn.Ticket
import Mathlib.Data.List.Nodup
import Mathlib.Logic.Function.Basic

/-!
# Waiters

Whoever begins a turn waits for its outcome.  The main statement, `waiters_eq_unresolved`, says that
each outcome is sent once and that the waiters of the engine are exactly those of the turns whose
outcome was not sent: no turn is forgotten, whichever operations take waiters out or put them back.

Two operations take a waiter out before they look for its session.  That nobody is lost this way is
due to the invariant `Kept.owned`: nobody waits at a desk without a session.
-/

namespace Ensemble

namespace Desk

/-- Nobody waits without a session. -/
def Owned (d : Desk) : Prop :=
  d.session = none → d.waiter = none

/-- Whoever waits, waits for the open turn, or for one that the session is past, by so many steps
at most. -/
def Trails (d : Desk) (count : Nat) : Prop :=
  ∀ w, d.waiter = some w → ∃ s, d.session = some s ∧
    ∃ n ≤ count, s.Past w.ticket n ∧ (n = 0 → s.isProcessing = true)

end Desk

namespace Engine

/-- Whether an operation is an event or a completion of the turn with a ticket. -/
def Operation.Concludes (name : String) (ticket : Nat) : Operation → Prop
  | .apply other number _ _ => other = name ∧ number = ticket
  | .complete other number _ _ => other = name ∧ number = ticket
  | _ => False

/-- What an operation can do to the waiter at a desk, and what it sends. -/
inductive WaiterChange (op : Operation) (answer : Answer) :
    Option Waiter → Option Waiter → List Signal → Prop where
  /-- The waiter stays. -/
  | kept {w} (h : begunTurn? op answer = none) : WaiterChange op answer w w []
  /-- The waiter hears and is gone. -/
  | told {w outcome} (h : begunTurn? op answer = none)
      (by_ : outcome = .cancelled ∨ op.Concludes op.target w.ticket) :
      WaiterChange op answer (some w) none [⟨w.number, outcome⟩]
  /-- The waiter of a new turn takes the place. -/
  | begun {w turn} (h : begunTurn? op answer = some turn) (here : turn.session = op.target) :
      WaiterChange op answer w (some ⟨turn.ticket, turn.number⟩) (cancelled w)

/-- Whoever waits may be cancelled by any operation that begins no turn. -/
theorem WaiterChange.of_cancelled {op : Operation} {answer : Answer} {w : Option Waiter}
    (h : begunTurn? op answer = none) : WaiterChange op answer w none (cancelled w) := by
  cases w with
  | none => exact .kept h
  | some w => exact .told h (.inl rfl)

/-- Whoever waits is told how the turn ended by what concludes it. -/
theorem WaiterChange.of_ending {op : Operation} {answer : Answer} {w w' : Option Waiter}
    {ticket : Nat} {outcome : Outcome} {signals : List Signal}
    (h : begunTurn? op answer = none) (concludes : op.Concludes op.target ticket)
    (ending : Ending ticket outcome w w' signals) : WaiterChange op answer w w' signals := by
  cases ending with
  | told same => exact .told h (.inr (same ▸ concludes))
  | other => exact .kept h
  | nobody => exact .kept h

/-- At a desk where nobody waits without a session, every deed changes the waiter so. -/
theorem Deed.waiterChange {op : Operation} {d d' : Desk} {answer : Answer} {signals : List Signal}
    (deed : Deed op d answer d' signals) (owned : d.Owned) :
    WaiterChange op answer d.waiter d'.waiter signals := by
  cases deed with
  | refused => exact .kept (by cases op <;> rfl)
  | created | restored | advanced | absorbed | ignored | unmoved | abortedIdle | enqueued | taken
  | tookNothing | noticed | recoveredIdle | remodelled => exact .kept rfl
  | closed | closedNothing | aborted | recovered => exact .of_cancelled rfl
  | abortedNothing =>
    -- here the waiter is gone before the session is looked for, without a word
    have nobody := owned rfl
    subst nobody
    exact .kept rfl
  | begun => exact .begun (begunTurn?_begin ..) rfl
  | ended _ _ ending => exact .of_ending rfl ⟨rfl, rfl⟩ ending
  | completed _ ending => exact .of_ending rfl ⟨rfl, rfl⟩ ending

/-- After every deed nobody waits without a session. -/
theorem Deed.owned {op : Operation} {d d' : Desk} {answer : Answer} {signals : List Signal}
    (deed : Deed op d answer d' signals) (h : d.Owned) : d'.Owned := by
  intro absent
  cases deed with
  | refused | ignored | unmoved | tookNothing => exact h absent
  | closed | closedNothing | abortedNothing => rfl
  | _ => cases absent

section Trails

variable {s s' : Session} {w w' : Option Waiter} {count : Nat}

/-- Who is behind by some steps at most is behind by one more at most. -/
private theorem trails_succ {d : Desk} (h : d.Trails count) : d.Trails (count + 1) := by
  intro waiter waits
  obtain ⟨s, found, n, few, past⟩ := h waiter waits
  exact ⟨s, found, n, Nat.le_succ_of_le few, past⟩

/-- A session that goes on to the next generation leaves waiters behind by one step more. -/
private theorem trails_next (h : Desk.Trails ⟨some s, w⟩ count)
    (next : s'.generation = s.nextTicket) : Desk.Trails ⟨some s', w⟩ (count + 1) := by
  intro waiter waits
  obtain ⟨_, ⟨⟩, n, few, past, -⟩ := h waiter waits
  exact ⟨s', rfl, n + 1, Nat.succ_le_succ few, past.next next, fun none => by cases none⟩

/-- A session that stays as it was, as far as its turn is concerned, leaves nobody behind. -/
private theorem trails_stay (h : Desk.Trails ⟨some s, w⟩ count)
    (same : s'.generation = s.generation) (busy : s'.isProcessing = s.isProcessing) :
    Desk.Trails ⟨some s', w⟩ (count + 1) := by
  intro waiter waits
  obtain ⟨_, ⟨⟩, n, few, past, current⟩ := h waiter waits
  exact ⟨s', rfl, n, Nat.le_succ_of_le few, past.stay same, fun none => busy.trans (current none)⟩

/-- Whoever is not told when the open turn ends waits for an earlier one. -/
private theorem trails_ending {outcome : Outcome} {signals : List Signal}
    (h : Desk.Trails ⟨some s, w⟩ count) (ending : Ending s.generation outcome w w' signals)
    (same : s'.generation = s.generation) : Desk.Trails ⟨some s', w'⟩ (count + 1) := by
  cases ending with
  | told | nobody => exact fun _ waits => by cases waits
  | other ne =>
    intro waiter waits
    obtain ⟨_, ⟨⟩, n, few, past, -⟩ := h waiter waits
    refine ⟨s', rfl, n, Nat.le_succ_of_le few, past.stay same, ?_⟩
    rintro rfl
    cases waits
    have current := past.generation_eq past.1
    exact absurd current.symm ne

end Trails

/-- Every deed keeps it that waiters wait for the open turn or for an earlier one. -/
theorem Deed.trails {op : Operation} {d d' : Desk} {answer : Answer} {signals : List Signal}
    (deed : Deed op d answer d' signals) {count : Nat} (h : d.Trails count) :
    d'.Trails (count + 1) := by
  cases deed with
  | refused | ignored | unmoved | tookNothing => exact trails_succ h
  | created | restored =>
    -- nobody has waited for a session that was not there
    intro w waits
    obtain ⟨_, absent, -⟩ := h w waits
    cases absent
  | closed | closedNothing | aborted | abortedIdle | abortedNothing | recovered | recoveredIdle =>
    exact fun _ waits => by cases waits
  | advanced => exact trails_next h rfl
  | begun =>
    intro w waits
    cases waits
    exact ⟨_, rfl, 0, Nat.zero_le _, .of_nextTicket (by simp), fun _ => rfl⟩
  | absorbed => exact trails_stay h (absorb_generation ..) (absorb_isProcessing ..)
  | enqueued | taken | noticed | remodelled => exact trails_stay h rfl rfl
  | ended _ _ ending => exact trails_ending h ending (by simp)
  | completed _ ending => exact trails_ending h ending (by simp)

/-- In every state that a run reaches, nobody waits without a session. -/
theorem owned_after (ops : List Operation) (name : String) :
    ((empty.after ops).desk name).Owned :=
  desk_after_of_mem (P := fun _ d => d.Owned) ops (n := 0)
    (fun _ _ deed owned => deed.owned owned) id fun _ => rfl

/-- In every state that a run reaches, waiters wait for open turns or for earlier ones. -/
theorem trails_after (ops : List Operation) (name : String) :
    ((empty.after ops).desk name).Trails ops.length := by
  have start : (empty.desk name).Trails 0 := fun _ waits => by cases waits
  have after := desk_after_of_mem (P := fun n d => d.Trails n) ops
    (fun _ _ deed trails => deed.trails trails) trails_succ start
  rwa [Nat.zero_add] at after

/-- An operation changes the waiter of the session it names only. -/
theorem waiters_perform (e : Engine) (op : Operation) :
    (e.perform op).engine.waiters.get? =
      Function.update e.waiters.get? op.target
        ((e.perform op).engine.waiters.get? op.target) := by
  funext name
  by_cases here : name = op.target
  · rw [here, Function.update_self]
  · rw [Function.update_of_ne here, ← desk_waiter, perform_desk_of_ne _ _ here, desk_waiter]

/-- After every operation nobody waits without a session. -/
theorem owned_perform {e : Engine} (owned : ∀ name, (e.desk name).Owned) (op : Operation)
    (name : String) : ((e.perform op).engine.desk name).Owned := by
  by_cases here : name = op.target
  · rw [here]
    exact (perform_deed e op).owned (owned op.target)
  · rw [perform_desk_of_ne _ _ here]
    exact owned name

/-! ## The account of turns, waiters and outcomes -/

/--
The turns begun, the outcomes sent and the waiters agree: turns have the numbers from 1 on, outcomes
go to turns, no turn has two, and the turns without one are those that somebody waits for.
-/
structure Accounted (waiters : String → Option Waiter) (begun : List BegunTurn)
    (sent : List Signal) : Prop where
  numbers : begun.map (·.number) = List.range' 1 begun.length
  sentOnce : (sent.map (·.waiter)).Nodup
  sentToTurns : ∀ number ∈ sent.map (·.waiter), ∃ turn ∈ begun, turn.number = number
  waiting_iff : ∀ turn : BegunTurn,
    (turn ∈ begun ∧ turn.number ∉ sent.map (·.waiter)) ↔
      waiters turn.session = some ⟨turn.ticket, turn.number⟩

namespace Accounted

variable {waiters : String → Option Waiter} {begun : List BegunTurn} {sent : List Signal}

/-- All is accounted for at the start. -/
theorem initial : Accounted (fun _ => none) [] [] where
  numbers := rfl
  sentOnce := .nil
  sentToTurns := by simp
  waiting_iff := by simp

/-- No two turns have the same number. -/
theorem nodup_numbers (h : Accounted waiters begun sent) : (begun.map (·.number)).Nodup := by
  rw [h.numbers]
  exact List.nodup_range'

/-- The number of a turn tells it from all others. -/
theorem eq_of_number_eq (h : Accounted waiters begun sent) {t u : BegunTurn} (ht : t ∈ begun)
    (hu : u ∈ begun) (same : t.number = u.number) : t = u :=
  List.inj_on_of_nodup_map h.nodup_numbers ht hu same

/-- Turns are numbered up to how many there are. -/
theorem number_le (h : Accounted waiters begun sent) {t : BegunTurn} (ht : t ∈ begun) :
    t.number ≤ begun.length := by
  have mem : t.number ∈ List.range' 1 begun.length := h.numbers ▸ List.mem_map_of_mem ht
  rw [List.mem_range'_1] at mem
  omega

/-- The waiter of a session hears an outcome. -/
theorem tell (h : Accounted waiters begun sent) {name : String} {w : Waiter}
    (waits : waiters name = some w) (outcome : Outcome) :
    Accounted (Function.update waiters name none) begun (sent ++ [⟨w.number, outcome⟩]) := by
  obtain ⟨mem, unsent⟩ := (h.waiting_iff ⟨name, w.ticket, w.number⟩).2 waits
  refine ⟨h.numbers, ?_, ?_, fun turn => ?_⟩
  · rw [List.map_append, List.nodup_append]
    refine ⟨h.sentOnce, by simp, ?_⟩
    intro number sent' number' new same
    rw [List.map_singleton, List.mem_singleton] at new
    rw [same, new] at sent'
    exact unsent sent'
  · intro number sent'
    rw [List.map_append, List.mem_append] at sent'
    rcases sent' with old | new
    · exact h.sentToTurns number old
    · rw [List.map_singleton, List.mem_singleton] at new
      exact ⟨_, mem, new.symm⟩
  · rw [List.map_append, List.mem_append, not_or, List.map_singleton, List.mem_singleton,
      ← and_assoc, h.waiting_iff]
    -- the one who was told waits no more, and every other turn has another number
    by_cases here : turn.session = name
    · rw [here, Function.update_self, waits]
      constructor
      · rintro ⟨same, other⟩
        cases same
        exact absurd rfl other
      · intro none
        cases none
    · rw [Function.update_of_ne here]
      refine and_iff_left_of_imp fun still same => here ?_
      have mem' := ((h.waiting_iff turn).2 still).1
      rw [h.eq_of_number_eq mem' mem same]

/-- A turn is begun at a session that nobody waits for. -/
theorem begin (h : Accounted waiters begun sent) {turn : BegunTurn}
    (nobody : waiters turn.session = none) (number : turn.number = begun.length + 1) :
    Accounted (Function.update waiters turn.session (some ⟨turn.ticket, turn.number⟩))
      (begun ++ [turn]) sent := by
  have fresh : ∀ t ∈ begun, t.number ≠ turn.number := by
    intro t mem same
    have := h.number_le mem
    omega
  have unsent : turn.number ∉ sent.map (·.waiter) := by
    intro mem
    obtain ⟨t, old, same⟩ := h.sentToTurns _ mem
    exact fresh t old same
  refine ⟨?_, h.sentOnce, ?_, fun other => ?_⟩
  · rw [List.map_append, h.numbers, List.length_append, List.length_singleton,
      List.range'_1_concat, List.map_singleton, number, Nat.add_comm]
  · intro number mem
    obtain ⟨t, old, same⟩ := h.sentToTurns number mem
    exact ⟨t, List.mem_append_left _ old, same⟩
  · rw [List.mem_append, List.mem_singleton, or_and_right, h.waiting_iff]
    by_cases here : other.session = turn.session
    · rw [here, Function.update_self, nobody]
      constructor
      · rintro (waits | ⟨same, -⟩)
        · cases waits
        · rw [same]
      · intro waits
        -- the waiter there now is the new one
        have same : other = turn := by
          obtain ⟨session, ticket, number⟩ := other
          cases here
          cases waits
          rfl
        exact .inr ⟨same, same ▸ unsent⟩
    · rw [Function.update_of_ne here]
      refine or_iff_left ?_
      rintro ⟨rfl, -⟩
      exact here rfl

/-- The account stays right whatever an operation does to the waiter at its desk. -/
theorem change (h : Accounted waiters begun sent) {op : Operation} {answer : Answer}
    {w : Option Waiter} {signals : List Signal}
    (change : WaiterChange op answer (waiters op.target) w signals)
    (numbered : ∀ turn, begunTurn? op answer = some turn → turn.number = begun.length + 1) :
    Accounted (Function.update waiters op.target w) (begun ++ (begunTurn? op answer).toList)
      (sent ++ signals) := by
  generalize before : waiters op.target = w₀ at change
  cases change with
  | kept none =>
    rw [none, ← before, Function.update_eq_self]
    simpa using h
  | told none =>
    rw [none, Option.toList_none, List.append_nil]
    exact h.tell before _
  | @begun _ turn new here =>
    rw [new, Option.toList_some, ← here]
    rw [← here] at before
    -- the turn that was open is told first, so that nobody waits when the next one begins
    have alone : Accounted (Function.update waiters turn.session none) begun
        (sent ++ cancelled w₀) := by
      cases w₀ with
      | none =>
        have same : Function.update waiters turn.session none = waiters := by
          rw [← before, Function.update_eq_self]
        rw [same]
        simpa [cancelled] using h
      | some w => exact h.tell before .cancelled
    have := alone.begin (Function.update_self ..) (numbered turn new)
    rwa [Function.update_idem] at this

end Accounted

/-! ## The account of a run -/

namespace History

/-- What every run keeps: the account is right, and nobody waits without a session. -/
structure Kept (h : History) : Prop where
  accounted : Accounted h.engine.waiters.get? h.begun h.sent
  owned : ∀ name, (h.engine.desk name).Owned

namespace Kept

/-- The accounts are kept at the start. -/
theorem start : Kept .start where
  accounted := .initial
  owned := fun _ _ => rfl

/-- The change that an operation makes to the waiter at its desk. -/
theorem waiterChange {h : History} (kept : h.Kept) (op : Operation) :
    WaiterChange op (h.engine.perform op).answer (h.engine.waiters.get? op.target)
      ((h.engine.perform op).engine.waiters.get? op.target) (h.engine.perform op).signals :=
  (perform_deed h.engine op).waiterChange (kept.owned op.target)

/-- Every operation keeps the account. -/
theorem perform {h : History} (kept : h.Kept) (op : Operation) : (h.perform op).Kept := by
  generalize same : op.numbered (h.begun.length + 1) = op'
  have unfolded : h.perform op =
      ⟨(h.engine.perform op').engine,
        h.begun ++ (begunTurn? op' (h.engine.perform op').answer).toList,
        h.sent ++ (h.engine.perform op').signals⟩ := by
    rw [← same]
    rfl
  rw [unfolded]
  refine ⟨?_, fun name => ?_⟩
  · have numbered : ∀ turn, begunTurn? op' (h.engine.perform op').answer = some turn →
        turn.number = h.begun.length + 1 := by
      intro turn begun
      rw [← same] at begun
      exact number_of_numbered begun
    have account := kept.accounted.change (kept.waiterChange op') numbered
    -- the account speaks of all waiters, the change of one desk
    rw [← waiters_perform] at account
    exact account
  · exact owned_perform kept.owned op' name

/-- The accounts are kept in every history. -/
theorem ofOperations (ops : List Operation) : (ofOperations ops).Kept :=
  ofOperations_induction start (fun _ op kept => kept.perform op) ops

/-- The waiters of the engine are those of the unresolved turns. -/
theorem mem_unresolved_iff {h : History} (kept : h.Kept) (turn : BegunTurn) :
    turn ∈ h.unresolved ↔
      h.engine.waiters.get? turn.session = some ⟨turn.ticket, turn.number⟩ := by
  rw [mem_unresolved, kept.accounted.waiting_iff]

/-- A session has one unresolved turn at most. -/
theorem nodup_sessions {h : History} (kept : h.Kept) : (h.unresolved.map (·.session)).Nodup := by
  have apart : h.unresolved.Nodup := (List.Nodup.of_map _ kept.accounted.nodup_numbers).filter _
  refine apart.map_on fun turn mem other mem' same => ?_
  have waits := (kept.mem_unresolved_iff turn).1 mem
  have waits' := (kept.mem_unresolved_iff other).1 mem'
  obtain ⟨session, ticket, number⟩ := turn
  obtain ⟨session', ticket', number'⟩ := other
  cases same
  rw [waits] at waits'
  cases waits'
  rfl

/-- The session of an unresolved turn exists. -/
theorem session_of_unresolved {h : History} (kept : h.Kept) {turn : BegunTurn}
    (mem : turn ∈ h.unresolved) : ∃ s, h.engine.session? turn.session = some s := by
  cases found : h.engine.session? turn.session with
  | some s => exact ⟨s, rfl⟩
  | none =>
    have nobody : h.engine.waiters.get? turn.session = none := kept.owned turn.session found
    rw [(kept.mem_unresolved_iff turn).1 mem] at nobody
    cases nobody

/-- What an operation sends goes to unresolved turns, and says cancelled unless it ends them. -/
theorem signal_of_unresolved {h : History} (kept : h.Kept) {op : Operation} {signal : Signal}
    (sent : signal ∈ (h.engine.perform op).signals) :
    ∃ turn ∈ h.unresolved, turn.number = signal.waiter ∧
      (signal.outcome = .cancelled ∨ op.Concludes turn.session turn.ticket) := by
  have told : ∃ w, h.engine.waiters.get? op.target = some w ∧ w.number = signal.waiter ∧
      (signal.outcome = .cancelled ∨ op.Concludes op.target w.ticket) := by
    have change := kept.waiterChange op
    generalize h.engine.waiters.get? op.target = w at change
    generalize (h.engine.perform op).engine.waiters.get? op.target = w' at change
    generalize (h.engine.perform op).signals = signals at change sent
    -- nobody is told without having waited at the desk of the operation
    cases change with
    | kept => cases sent
    | @told w _ _ by_ =>
      rw [List.mem_singleton] at sent
      subst sent
      exact ⟨w, rfl, rfl, by_⟩
    | begun =>
      rw [mem_cancelled] at sent
      obtain ⟨w, rfl, rfl⟩ := sent
      exact ⟨w, rfl, rfl, .inl rfl⟩
  obtain ⟨w, waits, number, how⟩ := told
  exact ⟨⟨op.target, w.ticket, w.number⟩, (kept.mem_unresolved_iff _).2 waits, number, how⟩

end Kept

/-- The engine of a history is that of a run of as many operations. -/
theorem exists_after (h : History) (ops : List Operation) :
    ∃ numbered, numbered.length = ops.length ∧
      (h.performAll ops).engine = h.engine.after numbered := by
  induction ops generalizing h with
  | nil => exact ⟨[], rfl, rfl⟩
  | cons op rest ih =>
    obtain ⟨numbered, length, same⟩ := ih (h.perform op)
    exact ⟨op.numbered (h.begun.length + 1) :: numbered, congrArg Nat.succ length, same⟩

/--
The turns of a run have numbers of their own, and each gets one outcome at most.  In every state
that a run reaches the unresolved turns are those that the engine has waiters for: one of a session
at most, and its session exists and has reached its ticket.  An outcome other than cancelled comes
from an event or a completion with the ticket of the turn.

A generation is a word of 64 bits: a session has reached a ticket as long as the generations after
it, of which an operation starts one at most, do not go beyond the greatest word.
-/
theorem waiters_eq_unresolved (ops : List Operation) :
    let h := ofOperations ops
    (h.begun.map (·.number)).Nodup ∧
      (h.sent.map (·.waiter)).Nodup ∧
      (∀ signal ∈ h.sent, ∃ turn ∈ h.begun, turn.number = signal.waiter) ∧
      (∀ turn, turn ∈ h.unresolved ↔
        h.engine.waiters.get? turn.session = some ⟨turn.ticket, turn.number⟩) ∧
      (h.unresolved.map (·.session)).Nodup ∧
      (∀ turn ∈ h.unresolved, ∃ s, h.engine.session? turn.session = some s ∧
        (turn.ticket + ops.length ≤ maxWord64 → turn.ticket ≤ s.generation)) ∧
      ∀ op, ∀ signal ∈ (h.engine.perform op).signals,
        ∃ turn ∈ h.unresolved, turn.number = signal.waiter ∧
          (signal.outcome = .cancelled ∨ op.Concludes turn.session turn.ticket) := by
  intro h
  have kept : h.Kept := .ofOperations ops
  refine ⟨kept.accounted.nodup_numbers, kept.accounted.sentOnce, fun signal sent => ?_,
    kept.mem_unresolved_iff, kept.nodup_sessions, fun turn mem => ?_,
    fun op signal => kept.signal_of_unresolved⟩
  · exact kept.accounted.sentToTurns _ (List.mem_map_of_mem sent)
  · obtain ⟨s, found⟩ := kept.session_of_unresolved mem
    refine ⟨s, found, fun room => ?_⟩
    -- the history is that of a run, in which waiters are behind by at most its length
    obtain ⟨numbered, length, same⟩ := start.exists_after ops
    have waits := (kept.mem_unresolved_iff turn).1 mem
    rw [show h.engine = empty.after numbered from same] at found waits
    obtain ⟨_, found', n, few, past, -⟩ := trails_after numbered turn.session _ waits
    obtain rfl := Option.some.inj (found.symm.trans found')
    have past : s.Past turn.ticket n := past
    rw [past.generation_eq (by omega)]
    exact Nat.le_add_right ..

end History

end Engine

end Ensemble
