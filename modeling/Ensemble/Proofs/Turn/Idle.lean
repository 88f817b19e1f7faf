import Ensemble.Proofs.Turn.Queue
import Ensemble.Proofs.Turn.Waiter

/-!
# Idle sessions and their waiters

Whoever begins a turn waits for the open turn of the session (`Desk.Served`), and every operation
keeps it so but one: starting the next generation while the turn is open.  The turn then goes on
under a ticket that its waiter does not have.  Whatever ends it by an event or a completion passes
the waiter over (`disowned_waiter_left`); calling the turn off does not.

In all states that runs reach, a waiter whose turn is not open has a ticket that its session is past
(`Desk.Trails`), so that this is the only way in which an idle session comes to have a waiter.
-/

namespace Ensemble

namespace Desk

/-- Whoever waits, waits for the open turn. -/
def Served (d : Desk) : Prop :=
  ∀ w, d.waiter = some w → ¬ d.Stale w.ticket

theorem stale_iff {s : Session} {waiter : Option Waiter} {ticket : Nat} :
    Stale ⟨some s, waiter⟩ ticket ↔ (s.isProcessing = true → s.generation ≠ ticket) := by
  refine ⟨fun h busy => h s rfl busy, ?_⟩
  rintro h s' found
  cases found
  exact h

/-- Nobody waits for an idle session if all wait for open turns. -/
theorem Served.nobody {d : Desk} (h : d.Served)
    (idle : ∀ s, d.session = some s → s.isProcessing = false) : d.waiter = none := by
  cases waits : d.waiter with
  | none => rfl
  | some w =>
    obtain ⟨s, found, busy, -⟩ := not_stale_iff.1 (h w waits)
    rw [idle s found] at busy
    cases busy

end Desk

namespace Engine

section Step

variable {op : Operation} {d d' : Desk} {answer : Answer} {signals : List Signal} {w : Waiter}

/-- A session that is as busy as before, in the same generation, serves whom it served. -/
private theorem served_or_stale {s s' : Session} {waiter : Option Waiter}
    (busy : s'.isProcessing = s.isProcessing) (generation : s'.generation = s.generation)
    (waits : waiter = some w) :
    ¬ Desk.Stale ⟨some s', waiter⟩ w.ticket ∨
      waiter = some w ∧ Desk.Stale ⟨some s, waiter⟩ w.ticket := by
  have same : Desk.Stale ⟨some s', waiter⟩ w.ticket ↔ Desk.Stale ⟨some s, waiter⟩ w.ticket := by
    rw [Desk.stale_iff, Desk.stale_iff, busy, generation]
  rw [same]
  exact (Classical.em _).symm.imp_right fun stale => ⟨waits, stale⟩

/-- Unless the generation is advanced, whoever waits after a deed waits for the open turn, or did
not do so before. -/
theorem Deed.served_or_stale (deed : Deed op d answer d' signals)
    (steady : ∀ name, op ≠ .nextGeneration name) (waits : d'.waiter = some w) :
    ¬ d'.Stale w.ticket ∨ d.waiter = some w ∧ d.Stale w.ticket := by
  cases deed with
  | refused | ignored | unmoved | tookNothing =>
    exact (Classical.em _).symm.imp_right fun stale => ⟨waits, stale⟩
  | created | restored => exact .inr ⟨waits, fun s found => by cases found⟩
  | closed | closedNothing | aborted | abortedIdle | abortedNothing | recovered
  | recoveredIdle => cases waits
  | @advanced name => exact absurd rfl (steady name)
  | begun =>
    cases waits
    exact .inl (Desk.not_stale_iff.2 ⟨_, rfl, rfl, by simp⟩)
  | absorbed => exact Engine.served_or_stale (by simp) (by simp) waits
  | enqueued | taken | noticed | remodelled => exact Engine.served_or_stale rfl rfl waits
  | ended _ _ ending | completed _ ending =>
    -- the waiter of the very turn that ends is told and gone
    cases ending with
    | told | nobody => cases waits
    | other ne =>
      cases waits
      exact .inr ⟨rfl, Desk.stale_iff.2 fun _ => ne.symm⟩

/-- Every deed keeps it that waiters wait for the open turn, unless the generation of a turn is
advanced while it is open. -/
theorem Deed.served (deed : Deed op d answer d' signals) (h : d.Served)
    (steady : ∀ name s, op = .nextGeneration name → d.session = some s → s.isProcessing = false) :
    d'.Served := by
  intro w waits
  by_cases advances : ∃ name, op = .nextGeneration name
  · obtain ⟨name, rfl⟩ := advances
    -- nobody waits before, and so nobody does afterwards
    have nobody : d.waiter = none := h.nobody fun s => steady name s rfl
    cases deed with
    | refused => exact h w waits
    | advanced => cases waits.symm.trans nobody
  · rcases deed.served_or_stale (fun name same => advances ⟨name, same⟩) waits with
      served | ⟨before, stale⟩
    · exact served
    · exact absurd stale (h w before)

/-- When an open turn is closed, a waiter is left exactly if an event or a completion has ended it
and the waiter did not wait for it. -/
theorem Deed.left_waiting_iff (deed : Deed op d answer d' signals) {s : Session}
    (found : d.session = some s) (busy : s.isProcessing = true)
    (idle : ∀ s', d'.session = some s' → s'.isProcessing = false) :
    d'.waiter = some w ↔
      op.hasEnded answer = true ∧ d.waiter = some w ∧ d.Stale w.ticket := by
  -- Operations that leave the turn open contradict its end.
  have goesOn {s' : Session} (found' : d'.session = some s') (busy' : s'.isProcessing = true) :
      d'.waiter = some w ↔
        op.hasEnded answer = true ∧ d.waiter = some w ∧ d.Stale w.ticket := by
    rw [idle s' found'] at busy'
    cases busy'
  cases deed with
  | refused | ignored | unmoved | tookNothing => exact goesOn found busy
  | created | restored | closedNothing | abortedNothing => cases found
  | begun => exact goesOn rfl rfl
  | absorbed busy => exact goesOn rfl (by simpa using busy)
  | advanced | enqueued | noticed | remodelled =>
    cases found
    exact goesOn rfl busy
  | abortedIdle free | taken free | recoveredIdle free =>
    cases found
    rw [free] at busy
    cases busy
  | closed | aborted | recovered => simp [Operation.hasEnded]
  | ended _ _ ending | completed _ ending =>
    cases found
    cases ending with
    | @told w₀ same =>
      refine iff_of_false (fun waits => by cases waits) ?_
      rintro ⟨-, before, stale⟩
      cases before
      exact Desk.stale_iff.1 stale busy same.symm
    | other ne =>
      refine ⟨fun waits => ⟨rfl, waits, ?_⟩, fun left => left.2.1⟩
      cases waits
      exact Desk.stale_iff.2 fun _ => ne.symm
    | nobody =>
      refine iff_of_false (fun waits => by cases waits) ?_
      rintro ⟨-, before, -⟩
      cases before

end Step

/-! ## Runs -/

/-- Whether a run starts the next generation of a session while a turn of it is open. -/
def advancesOpenTurn (name : String) : Engine → List Operation → Bool
  | _, [] => false
  | e, op :: rest =>
    op == .nextGeneration name && e.isProcessing name ||
      advancesOpenTurn name (e.perform op).engine rest

/-- In a run that advances the generations of idle sessions only, all wait for open turns. -/
theorem served_after {name : String} {ops : List Operation} :
    ∀ {e : Engine}, (e.desk name).Served → advancesOpenTurn name e ops = false →
      ((e.after ops).desk name).Served := by
  induction ops with
  | nil => exact fun served _ => served
  | cons op rest ih =>
    intro e served steady
    rw [advancesOpenTurn, Bool.or_eq_false_iff] at steady
    refine ih ?_ steady.2
    by_cases here : name = op.target
    · subst here
      refine (perform_deed e op).served served fun other s same found => ?_
      rw [same, Operation.target] at steady found
      have idle := steady.1
      rw [beq_self_eq_true, Bool.true_and, isProcessing] at idle
      rwa [show e.session? other = some s from found] at idle
    · rwa [perform_desk_of_ne e op here]

theorem idle_of_isProcessing {e : Engine} {name : String} (idle : e.isProcessing name = false)
    {s : Session} (found : (e.desk name).session = some s) : s.isProcessing = false := by
  rwa [isProcessing, show e.session? name = some s from found] at idle

/--
If a run advances the generation of a session only while it is idle, nobody waits for the session
when it is idle.  In all states that runs reach, a waiter of an idle session has a ticket that the
session is past, as long as the generations after it do not go beyond the greatest word; and when an
operation closes an open turn, a waiter is left exactly if an event or a completion has closed it
and the waiter waits for another turn.
-/
theorem nobody_waits_when_idle (ops : List Operation) (name : String) :
    let e := empty.after ops
    (advancesOpenTurn name empty ops = false → e.isProcessing name = false →
      e.waiters.get? name = none) ∧
    (∀ w, e.waiters.get? name = some w → e.isProcessing name = false →
      ∃ s, e.session? name = some s ∧
        (w.ticket + ops.length ≤ maxWord64 → w.ticket < s.generation)) ∧
    ∀ op, e.isProcessing op.target = true → (e.perform op).engine.isProcessing op.target = false →
      ∀ w, (e.perform op).engine.waiters.get? op.target = some w ↔
        op.hasEnded (e.perform op).answer = true ∧ e.waiters.get? op.target = some w ∧
          (e.desk op.target).Stale w.ticket := by
  intro e
  refine ⟨fun steady idle => ?_, fun w waits idle => ?_, fun op busy idle w => ?_⟩
  · have served : (e.desk name).Served :=
      served_after (by rintro w ⟨⟩) steady
    exact served.nobody fun s => idle_of_isProcessing idle
  · obtain ⟨s, found, n, few, past, current⟩ := trails_after ops name w waits
    refine ⟨s, found, fun room => ?_⟩
    -- At its own generation the waiter's turn would still be open.
    have some : n ≠ 0 := fun none => by
      have busy := current none
      rw [idle_of_isProcessing idle found] at busy
      cases busy
    rw [past.generation_eq (by omega)]
    omega
  · rw [isProcessing] at busy
    split at busy
    next s found =>
      exact (perform_deed e op).left_waiting_iff found busy fun s' => idle_of_isProcessing idle
    next => cases busy

/-- The generation is advanced between two turns, the second turn completes, and nobody waits. -/
theorem completed_turn_unwaited :
    let now : Timestamp := ⟨0, 0⟩
    let ops := [Operation.create (.fresh "a" "m" now),
      .begin "a" "first" ⟨false, false⟩ 1 now now, .abort "a" now, .nextGeneration "a",
      .begin "a" "second" ⟨false, false⟩ 2 now now, .complete "a" 3 (.completed "done") now]
    advancesOpenTurn "a" empty ops = false ∧ (empty.after ops).isProcessing "a" = false ∧
      (empty.after ops).waiters.get? "a" = none := by
  intro now ops
  have steady : advancesOpenTurn "a" empty ops = false := by decide
  have idle : (empty.after ops).isProcessing "a" = false := by decide
  exact ⟨steady, idle, (nobody_waits_when_idle ops "a").1 steady idle⟩

/-- The generation is advanced while a turn is open.  The completion of the turn answers that it was
the open one and leaves the session idle, but its waiter is not told and stays. -/
theorem disowned_waiter_left :
    let now : Timestamp := ⟨0, 0⟩
    let ops := [Operation.create (.fresh "a" "m" now),
      .begin "a" "go" ⟨false, false⟩ 1 now now, .nextGeneration "a"]
    let completed := (empty.after ops).perform (.complete "a" 2 .cancelled now)
    completed.answer = .changed true ∧ completed.engine.isProcessing "a" = false ∧
      completed.signals = [] ∧ completed.engine.waiters.get? "a" = some ⟨1, 1⟩ := by
  decide

end Engine

end Ensemble
