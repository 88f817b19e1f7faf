import Ensemble.Turn.Engine

/-!
# What the steps of a session leave alone

Every step of a session touches a few of its fields.  `flushReasoning_eq` and `flushContent_eq` say
this of flushing; the lemmas after them say of each step which name, queue, state and generation it
leaves, as far as turns depend on these.

The engine changes sessions in three composite steps: it begins a turn, ends a turn, and stops
whatever is open.  They have names here: `Session.beginTurn`, `Session.endTurn`, `Session.stop`.
-/

namespace Ensemble

namespace Session

variable (s : Session) (now : Timestamp)

/-! ## Flushing -/

/-- Flushing reasoning touches the transcript, the buffer and the time of activity. -/
theorem flushReasoning_eq :
    s.flushReasoning now =
      { s with
        transcript := (s.flushReasoning now).transcript
        pendingReasoning := ""
        lastActive := (s.flushReasoning now).lastActive } := by
  unfold flushReasoning
  split
  next h =>
    have empty : s.pendingReasoning = "" := String.isEmpty_iff.1 h
    rw [← empty]
  next => rfl

/-- Flushing content touches the transcript, the buffer and the time of activity. -/
theorem flushContent_eq :
    s.flushContent now =
      { s with
        transcript := (s.flushContent now).transcript
        pendingContent := ""
        lastActive := (s.flushContent now).lastActive } := by
  unfold flushContent
  split
  next h =>
    have empty : s.pendingContent = "" := String.isEmpty_iff.1 h
    rw [← empty]
  next => rfl

/-- Flushing touches the transcript, the buffers and the time of activity. -/
theorem flush_eq :
    s.flush now =
      { s with
        transcript := (s.flush now).transcript
        pendingContent := ""
        pendingReasoning := ""
        lastActive := (s.flush now).lastActive } := by
  unfold flush
  rw [flushContent_eq]
  rw [flushReasoning_eq]

@[simp] theorem flushReasoning_name : (s.flushReasoning now).name = s.name := by
  rw [flushReasoning_eq]

@[simp] theorem flushReasoning_queue : (s.flushReasoning now).queue = s.queue := by
  rw [flushReasoning_eq]

@[simp] theorem flushReasoning_isProcessing :
    (s.flushReasoning now).isProcessing = s.isProcessing := by
  rw [flushReasoning_eq]

@[simp] theorem flushReasoning_generation :
    (s.flushReasoning now).generation = s.generation := by
  rw [flushReasoning_eq]

@[simp] theorem flushReasoning_turnResponse :
    (s.flushReasoning now).turnResponse = s.turnResponse := by
  rw [flushReasoning_eq]

@[simp] theorem flushReasoning_startedAt : (s.flushReasoning now).startedAt = s.startedAt := by
  rw [flushReasoning_eq]

@[simp] theorem flush_name : (s.flush now).name = s.name := by rw [flush_eq]

@[simp] theorem flush_queue : (s.flush now).queue = s.queue := by rw [flush_eq]

@[simp] theorem flush_isProcessing : (s.flush now).isProcessing = s.isProcessing := by rw [flush_eq]

@[simp] theorem flush_generation : (s.flush now).generation = s.generation := by rw [flush_eq]

/-- Flushing leaves the response, which is handed over only when the turn ends. -/
@[simp] theorem flush_turnResponse : (s.flush now).turnResponse = s.turnResponse := by rw [flush_eq]

@[simp] theorem flush_startedAt : (s.flush now).startedAt = s.startedAt := by rw [flush_eq]

/-! ## New sessions -/

/-- A session as it is made, if its name is acceptable. -/
def fresh (name model : String) (now : Timestamp) : Session where
  name := name
  model := model
  transcript := []
  queue := []
  isProcessing := false
  startedAt := none
  activeTools := 0
  usedTools := false
  isResumed := false
  generation := 0
  pendingContent := ""
  pendingReasoning := ""
  turnResponse := ""
  createdAt := now
  lastActive := now

/-- Creating a session makes a fresh one or fails. -/
theorem eq_fresh_of_create {name model : String} {now : Timestamp} {s : Session}
    (h : create name model now = .ok s) : s = fresh name model now := by
  unfold create at h
  cases checked : checkName name with
  | error failure =>
    rw [checked] at h
    cases h
  | ok =>
    rw [checked] at h
    cases h
    rfl

/-! ## The composite steps of the engine -/

/-- The session with a turn begun for a prompt, which may be left out of the transcript. -/
def beginTurn (prompt : String) (suppressPrompt : Bool) (startedAt : Timestamp) : Session :=
  let s := if suppressPrompt then s else s.push (.ofRole .user prompt now)
  s.nextGeneration.openTurn startedAt now

/-- The session with its turn ended; a turn that failed leaves a notice. -/
def endTurn (outcome : Outcome) : Session :=
  let s := s.flush now
  let s :=
    match outcome with
    | .failed message => s.notice (Engine.failureNotice message) now
    | _ => s
  s.closeTurn.setResumed false

/-- The session made idle, with nothing queued. -/
def stop : Session :=
  (((s.flush now).closeTurn.clearQueue).setResumed false)

variable (prompt : String) (suppressPrompt : Bool) (startedAt : Timestamp) (outcome : Outcome)

@[simp] theorem beginTurn_name :
    (s.beginTurn now prompt suppressPrompt startedAt).name = s.name := by
  cases suppressPrompt <;> rfl

@[simp] theorem beginTurn_model :
    (s.beginTurn now prompt suppressPrompt startedAt).model = s.model := by
  cases suppressPrompt <;> rfl

@[simp] theorem beginTurn_queue :
    (s.beginTurn now prompt suppressPrompt startedAt).queue = s.queue := by
  cases suppressPrompt <;> rfl

/-- A turn that has begun is open. -/
@[simp] theorem beginTurn_isProcessing :
    (s.beginTurn now prompt suppressPrompt startedAt).isProcessing = true := rfl

/-- A turn begins with the next ticket. -/
@[simp] theorem beginTurn_generation :
    (s.beginTurn now prompt suppressPrompt startedAt).generation = s.nextTicket := by
  cases suppressPrompt <;> rfl

/-- Nothing of a response is there when a turn begins. -/
@[simp] theorem beginTurn_turnResponse :
    (s.beginTurn now prompt suppressPrompt startedAt).turnResponse = "" := rfl

/-- A turn begins with its prompt in the transcript, unless that is left out. -/
theorem beginTurn_transcript :
    (s.beginTurn now prompt suppressPrompt startedAt).transcript =
      s.transcript ++ if suppressPrompt then [] else [.ofRole .user prompt now] := by
  cases suppressPrompt with
  | false => rfl
  | true => exact (List.append_nil _).symm

/-- Ending a turn touches the transcript, the time of activity and the state of the turn. -/
theorem endTurn_eq :
    s.endTurn now outcome =
      { s.flush now with
        transcript := (s.endTurn now outcome).transcript
        lastActive := (s.endTurn now outcome).lastActive
        isProcessing := false
        startedAt := none
        activeTools := 0
        usedTools := false
        isResumed := false } := by
  cases outcome <;> rfl

@[simp] theorem endTurn_name : (s.endTurn now outcome).name = s.name := by
  rw [endTurn_eq]
  exact s.flush_name now

/-- Ending a turn leaves the queue, for the next prompt to be taken from it. -/
@[simp] theorem endTurn_queue : (s.endTurn now outcome).queue = s.queue := by
  rw [endTurn_eq]
  exact s.flush_queue now

/-- No turn is open once one has ended. -/
@[simp] theorem endTurn_isProcessing : (s.endTurn now outcome).isProcessing = false := by
  cases outcome <;> rfl

/-- Ending a turn does not move on to the next ticket. -/
@[simp] theorem endTurn_generation : (s.endTurn now outcome).generation = s.generation := by
  rw [endTurn_eq]
  exact s.flush_generation now

@[simp] theorem stop_name : (s.stop now).name = s.name := by
  simp [stop, closeTurn, clearQueue, setResumed]

/-- Nothing is queued once a session is stopped. -/
@[simp] theorem stop_queue : (s.stop now).queue = [] := rfl

/-- No turn is open once a session is stopped. -/
@[simp] theorem stop_isProcessing : (s.stop now).isProcessing = false := rfl

/-- Stopping a session does not move on to the next ticket. -/
@[simp] theorem stop_generation : (s.stop now).generation = s.generation := by
  simp [stop, closeTurn, clearQueue, setResumed]

/-! ## Resuming -/

@[simp] theorem resume_name : (s.resume now).name = s.name := by
  unfold resume
  split <;> rfl

/-- A session is resumed with the queue that it was saved with. -/
@[simp] theorem resume_queue : (s.resume now).queue = s.queue := by
  unfold resume
  split <;> rfl

/-- A session is resumed with a turn open if it was saved with one. -/
@[simp] theorem resume_isProcessing : (s.resume now).isProcessing = s.isProcessing := by
  unfold resume
  split
  next h => exact h.symm
  next => rfl

/-- A turn that is open when its session is restored starts anew. -/
theorem resume_startedAt (busy : s.isProcessing = true) : (s.resume now).startedAt = some now := by
  unfold resume
  rw [if_pos busy]
  rfl

end Session

/-! ## Events that do not end a turn -/

/-- The content that an event brings. -/
def StreamEvent.text : StreamEvent → String
  | content chunk => chunk
  | _ => ""

namespace Engine

variable (s : Session) (event : StreamEvent) (now : Timestamp)

@[simp] theorem absorb_name : (absorb s event now).name = s.name := by
  cases event with
  | content chunk => exact s.flushReasoning_name now
  | toolStarted tool => exact s.flush_name now
  | idle => exact s.flush_name now
  | _ => rfl

/-- Events have nothing to do with the queue. -/
@[simp] theorem absorb_queue : (absorb s event now).queue = s.queue := by
  cases event with
  | content chunk => exact s.flushReasoning_queue now
  | toolStarted tool => exact s.flush_queue now
  | idle => exact s.flush_queue now
  | _ => rfl

/-- Absorbing an event leaves the turn open; ending it is a step of its own. -/
@[simp] theorem absorb_isProcessing : (absorb s event now).isProcessing = s.isProcessing := by
  cases event with
  | content chunk => exact s.flushReasoning_isProcessing now
  | toolStarted tool => exact s.flush_isProcessing now
  | idle => exact s.flush_isProcessing now
  | _ => rfl

/-- An event belongs to the turn that is open, and leaves its ticket. -/
@[simp] theorem absorb_generation : (absorb s event now).generation = s.generation := by
  cases event with
  | content chunk => exact s.flushReasoning_generation now
  | toolStarted tool => exact s.flush_generation now
  | idle => exact s.flush_generation now
  | _ => rfl

@[simp] theorem absorb_startedAt : (absorb s event now).startedAt = s.startedAt := by
  cases event with
  | content chunk => exact s.flushReasoning_startedAt now
  | toolStarted tool => exact s.flush_startedAt now
  | idle => exact s.flush_startedAt now
  | _ => rfl

/-- As long as the turn goes on, its response grows by the content that the event brings. -/
theorem absorb_turnResponse (h : outcomeOf? s event = none) :
    (absorb s event now).turnResponse = s.turnResponse ++ event.text := by
  cases event with
  | content chunk => exact congrArg (· ++ chunk) (s.flushReasoning_turnResponse now)
  | reasoning chunk => exact (String.append_empty).symm
  | toolStarted tool => exact (s.flush_turnResponse now).trans (String.append_empty).symm
  | toolFinished tool output => exact (String.append_empty).symm
  | idle => cases h
  | fault message => cases h

end Engine

end Ensemble
