import Ensemble.Proofs.Session.Flags
import Ensemble.Proofs.Turn.Deed

/-!
# Reachable engines

An engine is reachable if a run comes to it that starts without sessions, creates new ones only, and
restores only sessions that such a run has held.  What new sessions have, and resuming and every
deed keep, holds of all sessions of reachable engines (`Reachable.session_induction`).

In particular, what a session knows of its open turn agrees (`turn_fields_agree`).
-/

namespace Ensemble.Engine

/-- Whether an operation brings in a session from outside. -/
def Operation.brings : Operation → Bool
  | .create _ => true
  | .restore .. => true
  | _ => false

/-- The engines that runs come to whose sessions are new or from such runs. -/
inductive Reachable : Engine → Prop where
  | empty : Reachable .empty
  | create {e} (before : Reachable e) {name model now s}
      (new : Session.create name model now = .ok s) : Reachable (e.perform (.create s)).engine
  | restore {e source} (before : Reachable e) (there : Reachable source) {name s}
      (held : source.session? name = some s) (now : Timestamp) :
      Reachable (e.perform (.restore s now)).engine
  | perform {e} (before : Reachable e) {op : Operation} (inside : op.brings = false) :
      Reachable (e.perform op).engine

section Step

variable {op : Operation} {d d' : Desk} {answer : Answer} {signals : List Signal}

/-- Where no session was, there is one only after it was created or restored. -/
theorem Deed.brought (deed : Deed op d answer d' signals) (absent : d.session = none)
    {s : Session} (found : d'.session = some s) :
    op = .create s ∨ ∃ source now, op = .restore source now ∧ s = source.resume now := by
  cases deed with
  | created =>
    cases found
    exact .inl rfl
  | restored =>
    cases found
    exact .inr ⟨_, _, rfl, rfl⟩
  | closed | closedNothing | abortedNothing => cases found
  | refused | ignored | unmoved | tookNothing =>
    rw [absent] at found
    cases found
  | _ => cases absent

end Step

section Induction

variable {P : Session → Prop}

/-- One operation, for `Reachable.session_induction`. -/
private theorem perform_session
    (step : ∀ {op s w answer d signals}, Deed op ⟨some s, w⟩ answer d signals → P s →
      ∀ s', d.session = some s' → P s')
    {e : Engine} {op : Operation} (held : ∀ name s, e.session? name = some s → P s)
    (created : ∀ s, op = .create s → P s)
    (restored : ∀ s now, op = .restore s now → P (s.resume now)) :
    ∀ name s, (e.perform op).engine.session? name = some s → P s := by
  intro name s found
  rw [← desk_session] at found
  by_cases here : name = op.target
  · subst here
    have deed := perform_deed e op
    -- A session that was not there is created or restored; one that was makes a step.
    cases before : e.session? op.target with
    | none =>
      rcases deed.brought before found with same | ⟨source, now, same, rfl⟩
      · exact created s same
      · exact restored source now same
    | some s₀ =>
      rw [show e.desk op.target = ⟨some s₀, e.waiters.get? op.target⟩ by rw [desk, before]] at deed
      exact step deed (held _ s₀ before) s found
  · rw [perform_desk_of_ne e op here] at found
    exact held name s found

/-- What holds of all new sessions, and is kept by resuming and by every deed, holds of all sessions
of reachable engines. -/
theorem Reachable.session_induction (new : ∀ name model now, P (.fresh name model now))
    (resumed : ∀ s now, P s → P (s.resume now))
    (step : ∀ {op s w answer d signals}, Deed op ⟨some s, w⟩ answer d signals → P s →
      ∀ s', d.session = some s' → P s')
    {e : Engine} (reachable : Reachable e) : ∀ name s, e.session? name = some s → P s := by
  induction reachable with
  | empty =>
    intro name s found
    cases found
  | create before new' ih =>
    refine perform_session step ih (fun s same => ?_) (fun s now same => by cases same)
    cases same
    rw [Session.eq_fresh_of_create new']
    exact new _ _ _
  -- The restored record is that of another reachable engine, to which the hypothesis applies.
  | restore before there held now ih ih' =>
    refine perform_session step ih (fun s same => by cases same) (fun s now same => ?_)
    cases same
    exact resumed _ now (ih' _ _ held)
  | perform before inside ih =>
    refine perform_session step ih (fun s same => ?_) (fun s now same => ?_)
    · rw [same] at inside
      cases inside
    · rw [same] at inside
      cases inside

end Induction

/-- Every deed keeps it that a session's fields about its turn agree. -/
theorem Deed.consistent {op : Operation} {s : Session} {w : Option Waiter} {answer : Answer}
    {d : Desk} {signals : List Signal} (deed : Deed op ⟨some s, w⟩ answer d signals)
    (h : s.Consistent) : ∀ s', d.session = some s' → s'.Consistent := by
  rintro s' found
  cases deed with
  | closed => cases found
  | refused | ignored | unmoved | abortedIdle | tookNothing =>
    cases found
    exact h
  | advanced | enqueued | taken | noticed | remodelled =>
    cases found
    exact ⟨h.started, h.idle, h.used⟩
  | begun =>
    cases found
    exact s.beginTurn_consistent _ _ _ _
  | absorbed busy =>
    cases found
    exact h.absorb busy _ _
  | ended | completed =>
    cases found
    exact Session.endTurn_consistent _ _ _
  | aborted | recovered =>
    cases found
    exact Session.stop_consistent _ _
  | @recoveredIdle _ text now =>
    cases found
    have noticed : (s.notice text now).Consistent := ⟨h.started, h.idle, h.used⟩
    exact noticed.notResumed

theorem Reachable.consistent {e : Engine} (reachable : Reachable e) {name : String} {s : Session}
    (found : e.session? name = some s) : s.Consistent :=
  reachable.session_induction (fun name model now => Session.fresh_consistent now name model)
    (fun _ now h => h.resume now) (fun deed h => deed.consistent h) name s found

/--
In every reachable engine, a session is at work exactly if its turn has a start.  An idle session
has no tools at work and used none, is not resumed, and has nothing buffered; and where tools are at
work, tools were used.
-/
theorem turn_fields_agree {e : Engine} (reachable : Reachable e) {name : String} {s : Session}
    (found : e.session? name = some s) :
    (s.isProcessing = true ↔ s.startedAt.isSome = true) ∧
      (s.isProcessing = false →
        s.activeTools = 0 ∧ s.usedTools = false ∧ s.isResumed = false ∧
          s.pendingContent = "" ∧ s.pendingReasoning = "") ∧
      (0 < s.activeTools → s.usedTools = true) := by
  obtain ⟨started, idle, used⟩ := reachable.consistent found
  exact ⟨by rw [started], idle, used⟩

/-- A session is restored from another run in the midst of a turn and starts a tool. -/
theorem resumed_turn_agrees :
    let now : Timestamp := ⟨0, 0⟩
    let begun := ((empty.perform (.create (.fresh "a" "m" now))).engine.perform
      (.begin "a" "go" ⟨false, false⟩ 1 now now)).engine
    let held := (Session.fresh "a" "m" now).beginTurn now "go" false now
    let e := ((empty.perform (.restore held now)).engine.perform
      (.apply "a" 2 (.toolStarted "bash") now)).engine
    let s := absorb (held.resume now) (.toolStarted "bash") now
    begun.session? "a" = some held ∧ Reachable e ∧ e.session? "a" = some s ∧
      s.isResumed = true ∧ s.activeTools = 1 ∧ s.startedAt.isSome = true ∧ s.usedTools = true := by
  intro now begun held e s
  have there : begun.session? "a" = some held := by decide
  have new : Session.create "a" "m" now = .ok (.fresh "a" "m" now) := rfl
  have source : Reachable begun := .perform (.create .empty new) rfl
  have reachable : Reachable e := .perform (.restore .empty source there now) rfl
  have found : e.session? "a" = some s := by decide
  obtain ⟨started, -, used⟩ := turn_fields_agree reachable found
  exact ⟨there, reachable, found, by decide, by decide, started.1 (by decide), used (by decide)⟩

end Ensemble.Engine
