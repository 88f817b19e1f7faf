import Ensemble.Proofs.Session.Frame

/-!
# What flushing moves into the transcript

Flushing makes an entry of each text that is buffered, of the reasoning first (`Session.buffered`).
Ending a turn and stopping whatever is open add these entries to the transcript, and nothing but
notices besides.
-/

namespace Ensemble

namespace Session

variable (s : Session) (now : Timestamp)

/-- What flushing moves into the transcript. -/
def buffered : List Entry :=
  (if s.pendingReasoning.isEmpty then [] else [.ofRole .reasoning s.pendingReasoning now]) ++
    if s.pendingContent.isEmpty then [] else [.ofRole .assistant s.pendingContent now]

/-- Flushing puts what the buffers hold at the end of the transcript. -/
theorem flush_transcript_eq : (s.flush now).transcript = s.transcript ++ s.buffered now := by
  simp only [flush, flushContent, flushReasoning, buffered]
  split <;> split <;> simp_all [push]

/-- The entry that flushing makes of a text; none if there is no text. -/
def flushed (role : Role) (text : String) (now : Timestamp) : List Entry :=
  if text.isEmpty then [] else [.ofRole role text now]

/-- Reasoning comes before content. -/
theorem buffered_eq :
    s.buffered now =
      flushed .reasoning s.pendingReasoning now ++ flushed .assistant s.pendingContent now := rfl

/-- Flushing reasoning puts it at the end of the transcript. -/
theorem flushReasoning_transcript_eq :
    (s.flushReasoning now).transcript =
      s.transcript ++ flushed .reasoning s.pendingReasoning now := by
  unfold flushReasoning flushed
  split
  · exact (List.append_nil _).symm
  · rfl

/-- The buffers hold nothing exactly if both are empty. -/
theorem buffered_eq_nil :
    s.buffered now = [] ↔ s.pendingContent = "" ∧ s.pendingReasoning = "" := by
  simp [buffered, and_comm]

/-- There is nothing buffered after flushing. -/
theorem buffered_flush (later : Timestamp) : (s.flush now).buffered later = [] := by
  rw [flush_eq]
  rfl

/-- Stopping a session keeps what the buffers held. -/
theorem stop_transcript : (s.stop now).transcript = s.transcript ++ s.buffered now := by
  simp only [stop, closeTurn, clearQueue, setResumed, flush_transcript_eq]

end Session

/-- The notice that a turn with an outcome leaves in the transcript. -/
def Outcome.notices (outcome : Outcome) (now : Timestamp) : List Entry :=
  match outcome with
  | .failed message => [.ofRole .system (Engine.failureNotice message) now]
  | _ => []

/-- Ending a turn keeps what the buffers held, and notes after it how the turn failed. -/
theorem Session.endTurn_transcript (s : Session) (now : Timestamp) (outcome : Outcome) :
    (s.endTurn now outcome).transcript =
      s.transcript ++ s.buffered now ++ outcome.notices now := by
  cases outcome <;>
    simp [endTurn, notice, push, closeTurn, setResumed, flush_transcript_eq, Outcome.notices]

end Ensemble
