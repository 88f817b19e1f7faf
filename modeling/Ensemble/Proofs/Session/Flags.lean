import Ensemble.Proofs.Session.Frame

/-!
# What a session knows of its open turn

Seven fields of a session are about the turn that is open, and they have to agree
(`Session.Consistent`): a turn that is open has a start, and an idle session has no tools at work
and nothing buffered.  Opening a turn, ending one and stopping whatever is open make them agree,
whatever they were before; all other steps keep it so.
-/

namespace Ensemble

namespace Session

/-- What a session knows of its open turn agrees. -/
structure Consistent (s : Session) : Prop where
  started : s.isProcessing = s.startedAt.isSome
  idle : s.isProcessing = false →
    s.activeTools = 0 ∧ s.usedTools = false ∧ s.isResumed = false ∧
      s.pendingContent = "" ∧ s.pendingReasoning = ""
  used : 0 < s.activeTools → s.usedTools = true

/-- Opening a turn makes the fields agree. -/
theorem openTurn_consistent (s : Session) (startedAt now : Timestamp) :
    (s.openTurn startedAt now).Consistent where
  started := rfl
  idle := fun idle => by cases idle
  used := fun active => absurd active (Nat.lt_irrefl 0)

/-- Closing a turn with nothing buffered makes the fields agree. -/
theorem closeTurn_consistent {s : Session} (content : s.pendingContent = "")
    (reasoning : s.pendingReasoning = "") : (s.closeTurn.setResumed false).Consistent where
  started := rfl
  idle := fun _ => ⟨rfl, rfl, rfl, content, reasoning⟩
  used := fun active => absurd active (Nat.lt_irrefl 0)

/-- No content is pending after flushing. -/
theorem flush_pendingContent (s : Session) (now : Timestamp) :
    (s.flush now).pendingContent = "" := by
  rw [flush_eq]

/-- No reasoning is pending after flushing. -/
theorem flush_pendingReasoning (s : Session) (now : Timestamp) :
    (s.flush now).pendingReasoning = "" := by
  rw [flush_eq]

variable (s : Session) (now : Timestamp)

/-- The flags of a new session agree, as nothing is going on in it. -/
theorem fresh_consistent (name model : String) : (fresh name model now).Consistent where
  started := rfl
  idle := fun _ => ⟨rfl, rfl, rfl, rfl, rfl⟩
  used := fun active => absurd active (Nat.lt_irrefl 0)

/-- The flags agree when a turn has begun, whatever they were before. -/
theorem beginTurn_consistent (prompt : String) (suppressPrompt : Bool) (startedAt : Timestamp) :
    (s.beginTurn now prompt suppressPrompt startedAt).Consistent :=
  openTurn_consistent _ startedAt now

/-- The flags agree when a turn has ended, as nothing is pending then. -/
theorem endTurn_consistent (outcome : Outcome) : (s.endTurn now outcome).Consistent := by
  refine closeTurn_consistent ?_ ?_
  · cases outcome <;> exact s.flush_pendingContent now
  · cases outcome <;> exact s.flush_pendingReasoning now

/-- The flags agree when a session has been stopped. -/
theorem stop_consistent : (s.stop now).Consistent := by
  obtain ⟨started, idle, used⟩ :=
    closeTurn_consistent (s.flush_pendingContent now) (s.flush_pendingReasoning now)
  exact ⟨started, idle, used⟩

namespace Consistent

variable {s : Session}

/-- Flushing reasoning keeps the flags in agreement. -/
theorem flushReasoning (h : s.Consistent) (now : Timestamp) :
    (s.flushReasoning now).Consistent := by
  rw [flushReasoning_eq]
  refine ⟨h.started, fun idle => ?_, h.used⟩
  obtain ⟨tools, used, resumed, content, -⟩ := h.idle idle
  exact ⟨tools, used, resumed, content, rfl⟩

/-- Flushing keeps the flags in agreement. -/
theorem flush (h : s.Consistent) (now : Timestamp) : (s.flush now).Consistent := by
  rw [flush_eq]
  refine ⟨h.started, fun idle => ?_, h.used⟩
  obtain ⟨tools, used, resumed, -, -⟩ := h.idle idle
  exact ⟨tools, used, resumed, rfl, rfl⟩

/-- The flag of a restored turn may be cleared at any time. -/
theorem notResumed (h : s.Consistent) : (s.setResumed false).Consistent := by
  refine ⟨h.started, fun idle => ?_, h.used⟩
  obtain ⟨tools, used, -, buffers⟩ := h.idle idle
  exact ⟨tools, used, rfl, buffers⟩

/-- Flags that agree in a saved session agree when it is resumed. -/
theorem resume (h : s.Consistent) (now : Timestamp) : (s.resume now).Consistent := by
  unfold Session.resume
  split
  next =>
    obtain ⟨started, -, used⟩ := s.nextGeneration.openTurn_consistent now now
    exact ⟨started, (fun idle => by cases idle), used⟩
  next => exact h.notResumed

/-- Of a session at work, what an event of its turn changes agrees. -/
theorem absorb (h : s.Consistent) (busy : s.isProcessing = true) (event : StreamEvent)
    (now : Timestamp) : (Engine.absorb s event now).Consistent := by
  have atWork : (Engine.absorb s event now).isProcessing = true := by
    rw [Engine.absorb_isProcessing, busy]
  -- The turn goes on, so that nothing is asked of an idle session.
  have idle {p : Prop} (idle : (Engine.absorb s event now).isProcessing = false) : p := by
    rw [atWork] at idle
    cases idle
  cases event with
  | content chunk =>
    have flushed := h.flushReasoning now
    exact ⟨flushed.started, fun free => idle free, flushed.used⟩
  | reasoning chunk => exact ⟨h.started, fun free => idle free, h.used⟩
  | toolStarted tool =>
    have flushed := h.flush now
    exact ⟨flushed.started, fun free => idle free, fun _ => rfl⟩
  | toolFinished tool output =>
    exact ⟨h.started, fun free => idle free, fun active => h.used (Nat.lt_of_lt_pred active)⟩
  | idle =>
    have flushed := h.flush now
    exact ⟨flushed.started, fun free => idle free, flushed.used⟩
  | fault message => exact h

end Consistent

end Session

end Ensemble
