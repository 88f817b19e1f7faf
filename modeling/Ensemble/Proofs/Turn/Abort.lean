import Ensemble.Proofs.Session.Buffer
import Ensemble.Proofs.Turn.Reachable

/-!
# Aborting

Aborting decides by three things whether there is anything to stop: an open turn, queued prompts,
and somebody who waits.  What it then clears is more than that.  The early way out is right because
of what reachable sessions know of their turns (`Session.Consistent`): where the three are absent,
everything else that an abort clears is clear already.

So an abort leaves the session at rest whether it answers that it stopped something or not, and it
answers that it did exactly if the engine is another one afterwards (`abort_leaves_at_rest`).
-/

namespace Ensemble

namespace Desk

/-- Nothing is left to stop at a desk with this session: no turn is open, nothing is queued, and
nobody waits. -/
structure AtRest (d : Desk) (s : Session) : Prop where
  session : d.session = some s
  idle : s.isProcessing = false
  queue : s.queue = []
  nobody : d.waiter = none

/-- There is something to stop at a desk with a session exactly if it is not at rest. -/
theorem atRest_iff {e : Engine} {name : String} {s : Session} (found : e.session? name = some s) :
    (e.desk name).AtRest s ↔
      (s.isProcessing || !s.queue.isEmpty || e.waiters.contains name) = false := by
  rw [Engine.idle_iff]
  exact ⟨fun rest => ⟨rest.idle, rest.queue, rest.nobody⟩,
    fun ⟨idle, queue, nobody⟩ => ⟨found, idle, queue, nobody⟩⟩

end Desk

namespace Session

variable {s : Session}

/-- Of a session whose fields agree, only text of an open turn is buffered. -/
theorem Consistent.buffered_eq (h : s.Consistent) (now : Timestamp) :
    s.buffered now = if s.isProcessing then s.buffered now else [] := by
  cases busy : s.isProcessing with
  | true => rfl
  | false =>
    obtain ⟨-, -, -, content, reasoning⟩ := h.idle busy
    exact (s.buffered_eq_nil now).2 ⟨content, reasoning⟩

end Session

namespace Engine

variable {e : Engine} {name : String} {s : Session}

/-- A session that is stopped is at rest. -/
theorem atRest_stop (e : Engine) (name : String) (s : Session) (now : Timestamp) :
    ((e.withDesk name ⟨some (s.stop now), none⟩).desk name).AtRest (s.stop now) := by
  rw [desk_withDesk, if_pos rfl]
  exact ⟨rfl, s.stop_isProcessing now, s.stop_queue now, rfl⟩

/-- Aborting what is at rest changes nothing. -/
theorem abort_of_atRest (rest : (e.desk name).AtRest s) (now : Timestamp) :
    e.perform (.abort name now) = ⟨.changed false, e, []⟩ := by
  have desk : e.desk name = ⟨some s, none⟩ := by
    rw [← rest.session, ← rest.nobody]
  rw [perform, abort_of_idle rest.session ((Desk.atRest_iff rest.session).1 rest), ← desk,
    withDesk_desk]
  rfl

/-- Aborting what is not at rest stops the session, and whoever waits hears of it. -/
theorem abort_of_not_atRest (found : e.session? name = some s) (active : ¬ (e.desk name).AtRest s)
    (now : Timestamp) :
    e.perform (.abort name now) =
      ⟨.changed true, e.withDesk name ⟨some (s.stop now), none⟩,
        cancelled (e.waiters.get? name)⟩ := by
  rw [Desk.atRest_iff found, Bool.not_eq_false] at active
  rw [perform, abort_of_active found active]
  rfl

/-- Stopping a session changes the engine unless it was at rest. -/
theorem withDesk_stop_ne (active : ¬ (e.desk name).AtRest s) (found : e.session? name = some s)
    (now : Timestamp) : e.withDesk name ⟨some (s.stop now), none⟩ ≠ e := by
  intro same
  have rest := e.atRest_stop name s now
  rw [same] at rest
  have unchanged : s.stop now = s := Option.some.inj (rest.session.symm.trans found)
  rw [unchanged] at rest
  exact active rest

/--
An abort leaves the session that it names idle, out of any turn from before a restart, with nothing
queued and nobody who waits, whoever waited having heard that the turn is off.  The generation
stays, and only what was buffered of an open turn comes into the transcript.  The answer is that
nothing was stopped exactly if nothing has changed, and this is what a second abort comes to.
-/
theorem abort_leaves_at_rest (reachable : Reachable e) (found : e.session? name = some s)
    (now : Timestamp) :
    let step := e.perform (.abort name now)
    ∃ changed t,
      step.answer = .changed changed ∧ step.engine.session? name = some t ∧
      t.isProcessing = false ∧ t.isResumed = false ∧ t.queue = [] ∧
      step.engine.waiters.get? name = none ∧ step.signals = cancelled (e.waiters.get? name) ∧
      t.generation = s.generation ∧
      t.transcript = s.transcript ++ (if s.isProcessing then s.buffered now else []) ∧
      (changed = false ↔ step.engine = e ∧ step.signals = []) ∧
      ∀ later,
        step.engine.perform (.abort name later) = ⟨.changed false, step.engine, []⟩ := by
  have consistent := reachable.consistent found
  -- A desk at rest is left as it is; any other one is stopped, which puts it at rest.
  by_cases rest : (e.desk name).AtRest s
  · have nobody : e.waiters.get? name = none := rest.nobody
    obtain ⟨-, -, notResumed, -⟩ := consistent.idle rest.idle
    rw [abort_of_atRest rest]
    refine ⟨false, s, rfl, found, rest.idle, notResumed, rest.queue, nobody, ?_, rfl, ?_, ?_,
      fun later => abort_of_atRest rest later⟩
    · rw [nobody]
      rfl
    · rw [rest.idle, if_neg Bool.false_ne_true, List.append_nil]
    · exact ⟨fun _ => ⟨rfl, rfl⟩, fun _ => rfl⟩
  · rw [abort_of_not_atRest found rest]
    have stopped := e.atRest_stop name s now
    refine ⟨true, s.stop now, rfl, stopped.session, stopped.idle, rfl, stopped.queue,
      stopped.nobody, rfl, s.stop_generation now, ?_, ?_,
      fun later => abort_of_atRest stopped later⟩
    · rw [s.stop_transcript, ← consistent.buffered_eq]
    · refine iff_of_false (by decide) ?_
      rintro ⟨same, -⟩
      exact withDesk_stop_ne rest found now same

/-- A turn from before a restart, whose ticket has drifted, is aborted in the midst of its answer,
with a prompt queued behind it. -/
theorem drifted_turn_aborted :
    let now : Timestamp := ⟨0, 0⟩
    let begun := ((empty.perform (.create (.fresh "a" "m" now))).engine.perform
      (.begin "a" "go" ⟨false, false⟩ 1 now now)).engine
    let held := (Session.fresh "a" "m" now).beginTurn now "go" false now
    let restored := (empty.perform (.restore held now)).engine
    let e := (((restored.perform (.nextGeneration "a")).engine.perform
      (.apply "a" 3 (.content "half") now)).engine.perform (.enqueue "a" "more")).engine
    let s := (absorb (held.resume now).nextGeneration (.content "half") now).enqueue "more"
    let aborted := e.perform (.abort "a" now)
    begun.session? "a" = some held ∧ Reachable e ∧ e.session? "a" = some s ∧
      s.isResumed = true ∧ s.generation = 3 ∧
      (∃ t, aborted.engine.session? "a" = some t ∧ t.isResumed = false ∧ t.queue = [] ∧
        t.generation = 3 ∧
        t.transcript = [.ofRole .user "go" now, .ofRole .assistant "half" now]) ∧
      aborted.answer = .changed true ∧
      aborted.engine.perform (.abort "a" now) = ⟨.changed false, aborted.engine, []⟩ := by
  intro now begun held restored e s aborted
  have new : Session.create "a" "m" now = .ok (.fresh "a" "m" now) := rfl
  have source : Reachable begun := .perform (.create .empty new) rfl
  have there : begun.session? "a" = some held := by decide
  have reachable : Reachable e :=
    .perform (.perform (.perform (.restore .empty source there now) rfl) rfl) rfl
  have found : e.session? "a" = some s := by decide
  obtain ⟨_, t, -, found', -, notResumed, queue, -, -, generation, transcript, -, again⟩ :=
    abort_leaves_at_rest reachable found now
  exact ⟨there, reachable, found, by decide, by decide,
    ⟨t, found', notResumed, queue, generation, transcript⟩, by decide, again now⟩

end Engine

end Ensemble
