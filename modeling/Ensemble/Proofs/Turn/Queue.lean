import Ensemble.Proofs.Turn.Deed

/-!
# Queues

What operations do to the queue of a session, and when they leave it *attended*: an idle session has
nothing queued, so that no prompt waits for a turn that nobody begins.
-/

namespace Ensemble

namespace Desk

/-- The prompts that are queued; none without a session. -/
def queue (d : Desk) : List String :=
  match d.session with
  | some s => s.queue
  | none => []

/-- Prompts are only queued while a turn is open. -/
def Attended (d : Desk) : Prop :=
  ∀ s, d.session = some s → s.queue ≠ [] → s.isProcessing = true

theorem Attended.queue_eq_nil {d : Desk} (h : d.Attended) {s : Session}
    (found : d.session = some s) (idle : s.isProcessing = false) : s.queue = [] := by
  cases queue : s.queue with
  | nil => rfl
  | cons prompt rest =>
    have busy := h s found (by simp [queue])
    rw [idle] at busy
    cases busy

end Desk

namespace Engine

/-- The prompts that an operation adds to the queue of its session. -/
def Operation.queued (op : Operation) (answer : Answer) : List String :=
  match op, answer with
  | .create s, .done => s.queue
  | .restore s _, .done => s.queue
  | .enqueue _ prompt, .depth _ => [prompt]
  | _, _ => []

/-- Whether an operation empties the queue of its session. -/
def Operation.empties (op : Operation) (answer : Answer) : Bool :=
  match op, answer with
  | .close _, _ => true
  | .abort .., .changed changed => changed
  | .recover .., .changed _ => true
  | _, _ => false

/-- Whether an operation takes the next prompt. -/
def Operation.isTake : Operation → Bool
  | .takeNext _ => true
  | _ => false

/-- Whether an operation has ended the open turn. -/
def Operation.hasEnded (op : Operation) (answer : Answer) : Bool :=
  match op, answer with
  | .apply .., .disposition (.ended _) => true
  | .complete .., .changed changed => changed
  | _, _ => false

/-- Whether an operation queues prompts only where a turn is open. -/
def Operation.QueuesInTurn (op : Operation) (d : Desk) : Prop :=
  match op with
  | .create s => s.queue ≠ [] → s.isProcessing = true
  | .restore s _ => s.queue ≠ [] → s.isProcessing = true
  | .enqueue .. => ∀ s, d.session = some s → s.isProcessing = true
  | _ => True

variable {op : Operation} {d d' : Desk} {answer : Answer} {signals : List Signal}

/-- Unless the next prompt is taken, the queue is emptied or grows at its end. -/
theorem Deed.queue_eq (deed : Deed op d answer d' signals) (stays : op.isTake = false) :
    d'.queue = if op.empties answer then [] else d.queue ++ op.queued answer := by
  cases deed with
  | refused fails =>
    cases op with
    | close | apply | complete | abort | takeNext => cases fails
    | _ => exact (List.append_nil _).symm
  | restored => exact Session.resume_queue ..
  | begun => exact (Session.beginTurn_queue ..).trans (List.append_nil _).symm
  | absorbed => exact (absorb_queue ..).trans (List.append_nil _).symm
  | ended =>
    exact (Session.endTurn_queue ..).trans ((absorb_queue ..).trans (List.append_nil _).symm)
  | completed => exact (Session.endTurn_queue ..).trans (List.append_nil _).symm
  | recoveredIdle idle empty => exact empty
  | taken | tookNothing => cases stays
  | created | closed | closedNothing | aborted | abortedNothing | enqueued | recovered => rfl
  | advanced | ignored | unmoved | abortedIdle | noticed | remodelled =>
    exact (List.append_nil _).symm

/-- A desk stays attended unless its turn ends. -/
theorem Deed.attended (deed : Deed op d answer d' signals) (h : d.Attended)
    (inTurn : op.QueuesInTurn d) (goesOn : op.hasEnded answer = false) : d'.Attended := by
  intro s' found' queued
  cases deed with
  | refused | ignored | unmoved | abortedIdle | tookNothing => exact h s' found' queued
  | created =>
    cases found'
    exact inTurn queued
  | restored =>
    cases found'
    rw [Session.resume_queue] at queued
    rw [Session.resume_isProcessing]
    exact inTurn queued
  | closed | closedNothing | abortedNothing => cases found'
  | begun =>
    cases found'
    exact Session.beginTurn_isProcessing ..
  | absorbed busy =>
    cases found'
    rw [absorb_isProcessing]
    exact busy
  | ended | completed => cases goesOn
  | aborted | recovered =>
    cases found'
    exact absurd (Session.stop_queue ..) queued
  | recoveredIdle idle empty =>
    cases found'
    exact absurd empty queued
  | enqueued =>
    cases found'
    have busy := inTurn _ rfl
    exact busy
  -- An idle desk that is attended has an empty queue, so nothing is taken from it.
  | taken idle queue =>
    have empty := h.queue_eq_nil rfl idle
    rw [queue] at empty
    cases empty
  | advanced | noticed | remodelled =>
    cases found'
    have busy := h _ rfl queued
    exact busy

end Engine

end Ensemble
