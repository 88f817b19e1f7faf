import Ensemble.Proofs.Turn.Ticket

/-!
# Sessions are independent

What an operation answers, sends and leaves at the desk it works at depends on that desk alone
(`perform_local`).  So operations that name different sessions can be done in either order
(`operations_commute`), and a run comes to the same engine however the operations of its sessions
are interleaved (`after_eq_of_interleaving`): what reaches a desk is the operations that name it, in
their order.
-/

namespace Ensemble.Engine

variable {e f : Engine} {name : String}

/-- Changes at different desks can be made in either order. -/
theorem withDesk_comm {other : String} (apart : name ≠ other) (d d' : Desk) :
    (e.withDesk name d).withDesk other d' = (e.withDesk other d').withDesk name d := by
  refine ext_desk fun third => ?_
  simp only [desk_withDesk]
  by_cases here : third = name
  · rw [if_pos here, if_neg (here ▸ apart), if_pos here]
  · rw [if_neg here, if_neg here]

/-! ## What an operation depends on -/

/-- Two steps, from one engine each, do the same at one desk. -/
def SameAt (e f : Engine) (name : String) (s s' : Step Answer) : Prop :=
  ∃ answer d signals,
    s = ⟨answer, e.withDesk name d, signals⟩ ∧ s' = ⟨answer, f.withDesk name d, signals⟩

/-- Engines with the same desk that are left as they are. -/
theorem SameAt.unchanged (same : e.desk name = f.desk name) (answer : Answer) :
    SameAt e f name ⟨answer, e, []⟩ ⟨answer, f, []⟩ := by
  refine ⟨answer, e.desk name, [], ?_, ?_⟩
  · rw [withDesk_desk]
  · rw [same, withDesk_desk]

/-- Engines with the same desk have the same session there. -/
theorem session?_eq_of_desk (same : e.desk name = f.desk name) :
    e.session? name = f.session? name :=
  congrArg Desk.session same

/-- Engines with the same desk have the same waiter there. -/
theorem waiter_eq_of_desk (same : e.desk name = f.desk name) :
    e.waiters.get? name = f.waiters.get? name :=
  congrArg Desk.waiter same

/-- Who still waits when a turn ends, and what is sent, depends on who waited. -/
theorem Ending.unique {ticket : Nat} {outcome : Outcome} {w w₁ w₂ : Option Waiter}
    {signals₁ signals₂ : List Signal} (first : Ending ticket outcome w w₁ signals₁)
    (second : Ending ticket outcome w w₂ signals₂) : w₁ = w₂ ∧ signals₁ = signals₂ := by
  cases first with
  | told h =>
    cases second with
    | told => exact ⟨rfl, rfl⟩
    | other ne => exact absurd h ne
  | other ne =>
    cases second with
    | told h => exact absurd h ne
    | other => exact ⟨rfl, rfl⟩
  | nobody =>
    cases second
    exact ⟨rfl, rfl⟩

section Local

/-- Creating a session depends on whether there is one of its name. -/
theorem create_local {s : Session} (same : e.desk s.name = f.desk s.name) :
    SameAt e f s.name (e.perform (.create s)) (f.perform (.create s)) := by
  cases h : e.session? s.name with
  | none =>
    rw [perform, perform, create_of_none h, create_of_none (session?_eq_of_desk same ▸ h),
      waiter_eq_of_desk same]
    exact ⟨_, _, _, rfl, rfl⟩
  | some old =>
    rw [perform, perform, create_of_some h, create_of_some (session?_eq_of_desk same ▸ h)]
    exact .unchanged same _

/-- Restoring a session depends on whether there is one of its name. -/
theorem restore_local {s : Session} (same : e.desk s.name = f.desk s.name) (now : Timestamp) :
    SameAt e f s.name (e.perform (.restore s now)) (f.perform (.restore s now)) := by
  cases h : e.session? s.name with
  | none =>
    rw [perform, perform, restore_of_none h, restore_of_none (session?_eq_of_desk same ▸ h),
      waiter_eq_of_desk same]
    exact ⟨_, _, _, rfl, rfl⟩
  | some old =>
    rw [perform, perform, restore_of_some h, restore_of_some (session?_eq_of_desk same ▸ h)]
    exact .unchanged same _

variable (same : e.desk name = f.desk name)
include same

/-- Whether there is something to stop depends on the desk. -/
theorem active_eq_of_desk (s : Session) :
    (s.isProcessing || !s.queue.isEmpty || e.waiters.contains name) =
      (s.isProcessing || !s.queue.isEmpty || f.waiters.contains name) := by
  rw [Registry.contains, waiter_eq_of_desk same, Registry.contains]

/-- Changing a session depends on the session alone. -/
theorem change_local {α : Type} (wrap : α → Answer) (g : Session → Session)
    (answer : Session → α) :
    SameAt e f name ((e.change name g answer).map (.ofAttempt wrap))
      ((f.change name g answer).map (.ofAttempt wrap)) := by
  cases h : e.session? name with
  | none =>
    rw [change_of_none h, change_of_none (session?_eq_of_desk same ▸ h)]
    exact .unchanged same _
  | some s =>
    rw [change_of_some h, change_of_some (session?_eq_of_desk same ▸ h), waiter_eq_of_desk same]
    exact ⟨_, _, _, rfl, rfl⟩

/-- Closing a session depends on the session and on who waits for it. -/
theorem close_local :
    SameAt e f name (e.perform (.close name)) (f.perform (.close name)) := by
  cases h : e.session? name with
  | none =>
    rw [perform, perform, close_of_none h, close_of_none (session?_eq_of_desk same ▸ h),
      waiter_eq_of_desk same]
    exact ⟨_, _, _, rfl, rfl⟩
  | some s =>
    rw [perform, perform, close_of_some h, close_of_some (session?_eq_of_desk same ▸ h),
      waiter_eq_of_desk same]
    exact ⟨_, _, _, rfl, rfl⟩

/-- Beginning a turn depends on whether one is open, and calls off who waits for that. -/
theorem begin_local (prompt : String) (options : BeginOptions) (number : Nat)
    (startedAt now : Timestamp) :
    SameAt e f name (e.perform (.begin name prompt options number startedAt now))
      (f.perform (.begin name prompt options number startedAt now)) := by
  cases h : e.session? name with
  | none =>
    rw [perform, perform, begin_of_none h, begin_of_none (session?_eq_of_desk same ▸ h)]
    exact .unchanged same _
  | some s =>
    have h' : f.session? name = some s := session?_eq_of_desk same ▸ h
    cases free : s.isProcessing && !options.allowOverlap with
    | true =>
      rw [perform, perform, begin_of_busy h free, begin_of_busy h' free]
      exact .unchanged same _
    | false =>
      rw [perform, perform, begin_of_free h free, begin_of_free h' free, waiter_eq_of_desk same]
      exact ⟨_, _, _, rfl, rfl⟩

/-- Completing a turn depends on the ticket of the open turn and on who waits for it. -/
theorem complete_local (ticket : Nat) (outcome : Outcome) (now : Timestamp) :
    SameAt e f name (e.perform (.complete name ticket outcome now))
      (f.perform (.complete name ticket outcome now)) := by
  by_cases stale : (e.desk name).Stale ticket
  · rw [perform, perform, complete_of_stale outcome now stale,
      complete_of_stale outcome now (same ▸ stale)]
    exact .unchanged same _
  · obtain ⟨s, h, busy, rfl⟩ := Desk.not_stale_iff.1 stale
    rw [desk_session] at h
    obtain ⟨w, signals, ending, eq⟩ := complete_of_current h busy outcome now
    -- the turn ends in both engines, and who waited for it is the same
    obtain ⟨w', signals', ending', eq'⟩ :=
      complete_of_current (session?_eq_of_desk same ▸ h) busy outcome now
    rw [← waiter_eq_of_desk same] at ending'
    obtain ⟨rfl, rfl⟩ := ending.unique ending'
    rw [perform, perform, eq, eq']
    exact ⟨_, _, _, rfl, rfl⟩

/-- An event depends on the ticket of the open turn and on what has been streamed in it. -/
theorem apply_local (ticket : Nat) (event : StreamEvent) (now : Timestamp) :
    SameAt e f name (e.perform (.apply name ticket event now))
      (f.perform (.apply name ticket event now)) := by
  by_cases stale : (e.desk name).Stale ticket
  · rw [perform, perform, apply_of_stale event now stale,
      apply_of_stale event now (same ▸ stale)]
    exact .unchanged same _
  · obtain ⟨s, h, busy, rfl⟩ := Desk.not_stale_iff.1 stale
    have h' : f.session? name = some s := session?_eq_of_desk same ▸ h
    cases ends : outcomeOf? s event with
    | none =>
      rw [perform, perform, apply_of_absorbed h busy ends, apply_of_absorbed h' busy ends,
        waiter_eq_of_desk same]
      exact ⟨_, _, _, rfl, rfl⟩
    | some outcome =>
      obtain ⟨w, signals, ending, eq⟩ := apply_of_ended h busy ends now
      -- as for completion: the ending is told by who waited
      obtain ⟨w', signals', ending', eq'⟩ := apply_of_ended h' busy ends now
      rw [← waiter_eq_of_desk same] at ending'
      obtain ⟨rfl, rfl⟩ := ending.unique ending'
      rw [perform, perform, eq, eq']
      exact ⟨_, _, _, rfl, rfl⟩

/-- Aborting depends on whether a turn is open, prompts are queued or somebody waits. -/
theorem abort_local (now : Timestamp) :
    SameAt e f name (e.perform (.abort name now)) (f.perform (.abort name now)) := by
  cases h : e.session? name with
  | none =>
    rw [perform, perform, abort_of_none h, abort_of_none (session?_eq_of_desk same ▸ h)]
    exact ⟨_, _, _, rfl, rfl⟩
  | some s =>
    have h' : f.session? name = some s := session?_eq_of_desk same ▸ h
    cases active : s.isProcessing || !s.queue.isEmpty || e.waiters.contains name with
    | true =>
      rw [perform, perform, abort_of_active h active,
        abort_of_active h' (active_eq_of_desk same s ▸ active), waiter_eq_of_desk same]
      exact ⟨_, _, _, rfl, rfl⟩
    | false =>
      rw [perform, perform, abort_of_idle h active,
        abort_of_idle h' (active_eq_of_desk same s ▸ active)]
      exact ⟨_, _, _, rfl, rfl⟩

/-- Taking a prompt off the queue depends on the queue and on whether a turn is open. -/
theorem takeNext_local :
    SameAt e f name (e.perform (.takeNext name)) (f.perform (.takeNext name)) := by
  by_cases nothing : ∀ s, e.session? name = some s → s.isProcessing = true ∨ s.queue = []
  · rw [perform, perform, takeNext_of_nothing nothing,
      takeNext_of_nothing (session?_eq_of_desk same ▸ nothing)]
    exact .unchanged same _
  · simp only [Classical.not_forall, not_or, Bool.not_eq_true] at nothing
    obtain ⟨s, h, idle, queued⟩ := nothing
    obtain ⟨prompt, rest, queue⟩ := List.exists_cons_of_ne_nil queued
    rw [perform, perform, takeNext_of_queued h idle queue,
      takeNext_of_queued (session?_eq_of_desk same ▸ h) idle queue, waiter_eq_of_desk same]
    exact ⟨_, _, _, rfl, rfl⟩

/-- Recovering depends on whether a turn is open, prompts are queued or somebody waits. -/
theorem recover_local (text : String) (now : Timestamp) :
    SameAt e f name (e.perform (.recover name text now)) (f.perform (.recover name text now)) := by
  cases h : e.session? name with
  | none =>
    have h' : f.session? name = none := session?_eq_of_desk same ▸ h
    rw [perform, perform, recover_of_none h, recover_of_none h']
    exact .unchanged same _
  | some s =>
    have h' : f.session? name = some s := session?_eq_of_desk same ▸ h
    cases active : s.isProcessing || !s.queue.isEmpty || e.waiters.contains name with
    | true =>
      rw [perform, perform, recover_of_active h active,
        recover_of_active h' (active_eq_of_desk same s ▸ active), waiter_eq_of_desk same]
      exact ⟨_, _, _, rfl, rfl⟩
    | false =>
      rw [perform, perform, recover_of_idle h active,
        recover_of_idle h' (active_eq_of_desk same s ▸ active)]
      exact ⟨_, _, _, rfl, rfl⟩

end Local

/-- An operation does the same wherever it finds the same desk. -/
theorem perform_local (op : Operation) (same : e.desk op.target = f.desk op.target) :
    SameAt e f op.target (e.perform op) (f.perform op) := by
  cases op with
  | create s => exact create_local same
  | restore s now => exact restore_local same now
  | close name => exact close_local same
  | nextGeneration name => exact change_local same _ _ _
  | begin name prompt options number startedAt now => exact begin_local same _ _ _ _ _
  | apply name ticket event now => exact apply_local same _ _ _
  | complete name ticket outcome now => exact complete_local same _ _ _
  | abort name now => exact abort_local same _
  | enqueue name prompt => exact change_local same _ _ _
  | takeNext name => exact takeNext_local same
  | postNotice name text now => exact change_local same _ _ _
  | recover name text now => exact recover_local same _ _
  | setModel name model => exact change_local same _ _ _

/-! ## Different sessions -/

/--
Operations that name different sessions can be performed in either order: the engine is the same in
the end, and each operation answers and sends what it does in the other order.  Neither touches
anything but the session and the waiter of its own name.
-/
theorem operations_commute (e : Engine) {op op' : Operation} (apart : op.target ≠ op'.target) :
    let first := e.perform op
    let first' := e.perform op'
    (first.engine.perform op').engine = (first'.engine.perform op).engine ∧
      (first.engine.perform op').answer = first'.answer ∧
      (first.engine.perform op').signals = first'.signals ∧
      (first'.engine.perform op).answer = first.answer ∧
      (first'.engine.perform op).signals = first.signals ∧
      ∀ name, name ≠ op.target →
        first.engine.session? name = e.session? name ∧
          first.engine.waiters.get? name = e.waiters.get? name := by
  intro first first'
  obtain ⟨answer, d, signals, own, after⟩ :=
    perform_local op (perform_desk_of_ne e op' apart).symm
  obtain ⟨answer', d', signals', own', after'⟩ :=
    perform_local op' (perform_desk_of_ne e op apart.symm).symm
  refine ⟨?_, ?_, ?_, ?_, ?_, fun name other => ?_⟩
  · -- each operation finds its desk as if the other had not been performed
    rw [after, after', show first.engine = _ from congrArg Step.engine own,
      show first'.engine = _ from congrArg Step.engine own', withDesk_comm apart]
  · rw [after', show first' = _ from own']
  · rw [after', show first' = _ from own']
  · rw [after, show first = _ from own]
  · rw [after, show first = _ from own]
  · have kept := perform_desk_of_ne e op other
    exact ⟨congrArg Desk.session kept, congrArg Desk.waiter kept⟩

/-- A prompt overlaps the turn of one session, and another session is closed in its turn.  In both
orders each of the two turns is called off by the operation that names its session. -/
theorem overlap_and_close_commute :
    let now : Timestamp := ⟨0, 0⟩
    let e := empty.after [.create (.fresh "a" "m" now), .create (.fresh "b" "m" now),
      .begin "a" "first" ⟨false, false⟩ 1 now now, .begin "b" "other" ⟨false, false⟩ 2 now now]
    let overlap := Operation.begin "a" "second" ⟨false, true⟩ 3 now now
    let close := Operation.close "b"
    overlap.target ≠ close.target ∧
      ((e.perform overlap).engine.perform close).engine =
        ((e.perform close).engine.perform overlap).engine ∧
      ((e.perform overlap).engine.perform close).signals = [⟨2, .cancelled⟩] ∧
      ((e.perform close).engine.perform overlap).answer = .ticket 2 ∧
      ((e.perform close).engine.perform overlap).signals = [⟨1, .cancelled⟩] := by
  intro now e overlap close
  have apart : overlap.target ≠ close.target := by decide
  obtain ⟨engine, -, closes, begins, overlaps, -⟩ := operations_commute e apart
  refine ⟨apart, engine, closes.trans ?_, begins.trans ?_, overlaps.trans ?_⟩
  all_goals decide

/-! ## Interleavings -/

/-- What a run makes of a desk is what the operations that name it make of it, in their order. -/
theorem desk_after_filter {ops : List Operation} (same : e.desk name = f.desk name) :
    (e.after ops).desk name = (f.after (ops.filter (·.target = name))).desk name := by
  induction ops generalizing e f with
  | nil => exact same
  | cons op rest ih =>
    rw [after_cons]
    by_cases here : op.target = name
    · -- an operation on the desk itself is in both runs and does the same in both
      subst here
      rw [List.filter_cons_of_pos (by simp), after_cons]
      obtain ⟨_, _, _, own, own'⟩ := perform_local op same
      refine ih ?_
      rw [own, own', desk_withDesk, desk_withDesk, if_pos rfl, if_pos rfl]
    · -- any other operation is left out of the filtered run, and does not come near the desk
      rw [List.filter_cons_of_neg (by simpa using here)]
      exact ih ((perform_desk_of_ne e op (Ne.symm here)).trans same)

/-- Runs in which every session has the same operations in the same order come to the same engine,
however the sessions are interleaved. -/
theorem after_eq_of_interleaving {ops ops' : List Operation}
    (same : ∀ name, ops.filter (·.target = name) = ops'.filter (·.target = name)) (e : Engine) :
    e.after ops = e.after ops' := by
  refine ext_desk fun name => ?_
  rw [desk_after_filter rfl, same, ← desk_after_filter rfl]

end Ensemble.Engine
