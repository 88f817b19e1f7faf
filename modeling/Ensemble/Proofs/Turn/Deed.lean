import Ensemble.Proofs.Turn.Desk

/-!
# What an operation of the engine does

An operation names one session.  It reads and changes what the engine holds under that name, the
*desk* of the session, and nothing else: `perform_desk_of_ne`.

`Deed` lists everything that can happen at that desk, one constructor for each case, with the answer
and the outcomes sent.  `perform_deed` says that the list is complete.  What holds of the desks of
an engine is shown from the list, and no operation is opened again.
-/

namespace Ensemble

namespace Engine

/-- The session that an operation names. -/
def Operation.target : Operation → String
  | .create s => s.name
  | .restore s _ => s.name
  | .close name => name
  | .nextGeneration name => name
  | .begin name _ _ _ _ _ => name
  | .apply name _ _ _ => name
  | .complete name _ _ _ => name
  | .abort name _ => name
  | .enqueue name _ => name
  | .takeNext name => name
  | .postNotice name _ _ => name
  | .recover name _ _ => name
  | .setModel name _ => name

/-- Whether an operation can be refused with everything as before. -/
def Operation.canFail : Operation → Bool
  | .close _ | .apply .. | .complete .. | .abort .. | .takeNext _ => false
  | _ => true

/-- What a waiter is told when the turn is called off. -/
def cancelled (waiter : Option Waiter) : List Signal :=
  waiter.toList.map fun w => ⟨w.number, .cancelled⟩

/-- Whoever waited is told that the turn was cancelled, and nobody else is told anything. -/
theorem mem_cancelled {waiter : Option Waiter} {signal : Signal} :
    signal ∈ cancelled waiter ↔ ∃ w, waiter = some w ∧ ⟨w.number, .cancelled⟩ = signal := by
  cases waiter <;> simp [cancelled, eq_comm]

/-- The waiter of a session is told by the cancellation of the session. -/
theorem cancellation_eq (e : Engine) (name : String) :
    e.cancellation name = cancelled (e.waiters.get? name) := by
  unfold cancellation
  cases e.waiters.get? name <;> rfl

/-- Who still waits, and what is sent, when the turn with a ticket ends with an outcome. -/
inductive Ending (ticket : Nat) (outcome : Outcome) :
    Option Waiter → Option Waiter → List Signal → Prop where
  | told {w : Waiter} (h : w.ticket = ticket) :
      Ending ticket outcome (some w) none [⟨w.number, outcome⟩]
  | other {w : Waiter} (h : w.ticket ≠ ticket) : Ending ticket outcome (some w) (some w) []
  | nobody : Ending ticket outcome none none []

/--
What an operation can do at the desk of the session it names: the desk before, the answer, the desk
afterwards, and the outcomes sent.
-/
inductive Deed : Operation → Desk → Answer → Desk → List Signal → Prop where
  | refused {op d failure} (h : op.canFail = true) : Deed op d (.refused failure) d []
  | created {s w} : Deed (.create s) ⟨none, w⟩ .done ⟨some s, w⟩ []
  | restored {s now w} : Deed (.restore s now) ⟨none, w⟩ .done ⟨some (s.resume now), w⟩ []
  | closed {name s w} :
      Deed (.close name) ⟨some s, w⟩ (.session s) ⟨none, none⟩ (cancelled w)
  | closedNothing {name w failure} :
      Deed (.close name) ⟨none, w⟩ (.refused failure) ⟨none, none⟩ (cancelled w)
  | advanced {name s w} :
      Deed (.nextGeneration name) ⟨some s, w⟩ (.generation s.nextTicket)
        ⟨some s.nextGeneration, w⟩ []
  | begun {name prompt options number startedAt now s w}
      (free : s.isProcessing = false ∨ options.allowOverlap = true) :
      Deed (.begin name prompt options number startedAt now) ⟨some s, w⟩
        (.ticket s.nextTicket)
        ⟨some (s.beginTurn now prompt options.suppressPrompt startedAt),
          some ⟨s.nextTicket, number⟩⟩ (cancelled w)
  | absorbed {name event now s w} (busy : s.isProcessing = true)
      (goesOn : outcomeOf? s event = none) :
      Deed (.apply name s.generation event now) ⟨some s, w⟩ (.disposition .applied)
        ⟨some (absorb s event now), w⟩ []
  | ended {name event now s w outcome w' signals} (busy : s.isProcessing = true)
      (ends : outcomeOf? s event = some outcome) (h : Ending s.generation outcome w w' signals) :
      Deed (.apply name s.generation event now) ⟨some s, w⟩ (.disposition (.ended outcome))
        ⟨some ((absorb s event now).endTurn now outcome), w'⟩ signals
  | ignored {name ticket event now d} (stale : d.Stale ticket) :
      Deed (.apply name ticket event now) d (.disposition .ignored) d []
  | completed {name outcome now s w w' signals} (busy : s.isProcessing = true)
      (h : Ending s.generation outcome w w' signals) :
      Deed (.complete name s.generation outcome now) ⟨some s, w⟩ (.changed true)
        ⟨some (s.endTurn now outcome), w'⟩ signals
  | unmoved {name ticket outcome now d} (stale : d.Stale ticket) :
      Deed (.complete name ticket outcome now) d (.changed false) d []
  | aborted {name now s w} :
      Deed (.abort name now) ⟨some s, w⟩ (.changed true) ⟨some (s.stop now), none⟩ (cancelled w)
  | abortedIdle {name now s} (idle : s.isProcessing = false) (empty : s.queue = []) :
      Deed (.abort name now) ⟨some s, none⟩ (.changed false) ⟨some s, none⟩ []
  | abortedNothing {name now w failure} :
      Deed (.abort name now) ⟨none, w⟩ (.refused failure) ⟨none, none⟩ []
  | enqueued {name prompt s w} :
      Deed (.enqueue name prompt) ⟨some s, w⟩ (.depth (s.queue ++ [prompt]).length)
        ⟨some (s.enqueue prompt), w⟩ []
  | taken {name prompt rest s w} (idle : s.isProcessing = false) (h : s.queue = prompt :: rest) :
      Deed (.takeNext name) ⟨some s, w⟩ (.next (some prompt)) ⟨some { s with queue := rest }, w⟩ []
  | tookNothing {name d} : Deed (.takeNext name) d (.next none) d []
  | noticed {name text now s w} :
      Deed (.postNotice name text now) ⟨some s, w⟩ .done ⟨some (s.notice text now), w⟩ []
  | recovered {name text now s w} :
      Deed (.recover name text now) ⟨some s, w⟩ (.changed true)
        ⟨some ((s.notice text now).stop now), none⟩ (cancelled w)
  | recoveredIdle {name text now s} (idle : s.isProcessing = false) (empty : s.queue = []) :
      Deed (.recover name text now) ⟨some s, none⟩ (.changed false)
        ⟨some ((s.notice text now).setResumed false), none⟩ []
  | remodelled {name model s w} :
      Deed (.setModel name model) ⟨some s, w⟩ .done ⟨some { s with model }, w⟩ []

/-! ## What single operations come to -/

variable {e : Engine} {name : String}

/-- A name is taken if there is a session under it. -/
theorem contains_session (e : Engine) (name : String) :
    e.sessions.contains name = (e.session? name).isSome := rfl

/-- Under a name without a session, a session can be added. -/
theorem create_of_none {s : Session} (absent : e.session? s.name = none) :
    e.create s = ⟨.ok (), e.withDesk s.name ⟨some s, e.waiters.get? s.name⟩, []⟩ := by
  rw [create, contains_session, absent, put_eq_withDesk]
  rfl

/-- Under a name with a session, no other is added. -/
theorem create_of_some {s old : Session} (taken : e.session? s.name = some old) :
    e.create s = ⟨.error (.sessionExists s.name), e, []⟩ := by
  rw [create, contains_session, taken]
  rfl

/-- A session is restored where there is none, and resumed. -/
theorem restore_of_none {s : Session} (absent : e.session? s.name = none) (now : Timestamp) :
    e.restore s now =
      ⟨.ok (), e.withDesk s.name ⟨some (s.resume now), e.waiters.get? s.name⟩, []⟩ := by
  rw [restore, contains_session, absent, put_eq_withDesk]
  rfl

/-- A session is not restored over another one. -/
theorem restore_of_some {s old : Session} (taken : e.session? s.name = some old)
    (now : Timestamp) : e.restore s now = ⟨.error (.sessionExists s.name), e, []⟩ := by
  rw [restore, contains_session, taken]
  rfl

/-- Closing a session leaves nothing at its desk, and whoever waits hears of it. -/
theorem close_of_some {s : Session} (h : e.session? name = some s) :
    e.close name =
      ⟨.ok s, e.withDesk name ⟨none, none⟩, cancelled (e.waiters.get? name)⟩ := by
  unfold close
  simp only [h, cancellation_eq]
  rfl

/-- Where there is no session to close, a waiter is dismissed all the same. -/
theorem close_of_none (h : e.session? name = none) :
    e.close name =
      ⟨.error (.sessionNotFound name), e.withDesk name ⟨none, none⟩,
        cancelled (e.waiters.get? name)⟩ := by
  unfold close
  simp only [h, cancellation_eq]
  rw [dropWaiter_eq_withDesk, h]

/-- A completion for a turn that is not open changes nothing. -/
theorem complete_of_stale {ticket : Nat} (outcome : Outcome) (now : Timestamp)
    (stale : (e.desk name).Stale ticket) :
    e.complete name ticket outcome now = ⟨false, e, []⟩ := by
  unfold complete
  cases h : e.session? name with
  | none => rfl
  | some s =>
    cases busy : s.isProcessing with
    | false => simp [busy]
    | true =>
      have ne : ticket ≠ s.generation := (stale s h busy).symm
      simp [ne]

/-- The completion of the open turn ends it, and tells the waiter if it waits for this turn. -/
theorem complete_of_current {s : Session} (h : e.session? name = some s)
    (busy : s.isProcessing = true) (outcome : Outcome) (now : Timestamp) :
    ∃ w signals, Ending s.generation outcome (e.waiters.get? name) w signals ∧
      e.complete name s.generation outcome now =
        ⟨true, e.withDesk name ⟨some (s.endTurn now outcome), w⟩, signals⟩ := by
  have kept : e.put name (s.endTurn now outcome) =
      e.withDesk name ⟨some (s.endTurn now outcome), e.waiters.get? name⟩ := put_eq_withDesk _
  unfold complete
  simp only [h, busy, bne_self_eq_false, Bool.not_true, Bool.or_self, Bool.false_eq_true, if_false]
  cases waiting : e.waiters.get? name with
  | none =>
    rw [waiting] at kept
    exact ⟨none, [], .nobody, congrArg (Step.mk true · []) kept⟩
  | some w =>
    rw [waiting] at kept
    -- A waiter for another ticket is put back unanswered.
    by_cases same : w.ticket = s.generation
    · refine ⟨none, [⟨w.number, outcome⟩], .told same, ?_⟩
      simp only [same, beq_self_eq_true, if_true]
      exact congrArg (Step.mk true · _) (put_dropWaiter (s.endTurn now outcome))
    · refine ⟨some w, [], .other same, ?_⟩
      simp only [same, beq_iff_eq, if_false]
      exact congrArg (Step.mk true · []) kept

/-- An event of a turn that is not open changes nothing. -/
theorem apply_of_stale {ticket : Nat} (event : StreamEvent) (now : Timestamp)
    (stale : (e.desk name).Stale ticket) :
    e.apply name ticket event now = ⟨.ignored, e, []⟩ := by
  unfold apply
  cases h : e.session? name with
  | none => rfl
  | some s =>
    cases busy : s.isProcessing with
    | false => simp [busy]
    | true =>
      have ne : s.generation ≠ ticket := stale s h busy
      simp [ne]

/-- Events of the open turn that do not end it go to its session. -/
theorem apply_of_absorbed {s : Session} (h : e.session? name = some s)
    (busy : s.isProcessing = true) {event : StreamEvent} (goesOn : outcomeOf? s event = none)
    (now : Timestamp) :
    e.apply name s.generation event now =
      ⟨.applied, e.withDesk name ⟨some (absorb s event now), e.waiters.get? name⟩, []⟩ := by
  unfold apply
  simp only [h, busy, beq_self_eq_true, Bool.and_self, if_true, goesOn]
  rw [put_eq_withDesk]

/-- Events that end the open turn complete it with their outcome. -/
theorem apply_of_ended {s : Session} (h : e.session? name = some s) (busy : s.isProcessing = true)
    {event : StreamEvent} {outcome : Outcome} (ends : outcomeOf? s event = some outcome)
    (now : Timestamp) :
    ∃ w signals, Ending s.generation outcome (e.waiters.get? name) w signals ∧
      e.apply name s.generation event now =
        ⟨.ended outcome, e.withDesk name ⟨some ((absorb s event now).endTurn now outcome), w⟩,
          signals⟩ := by
  -- The event is absorbed first, so the turn that is completed is the one after it.
  have found : (e.put name (absorb s event now)).session? name = some (absorb s event now) := by
    simp [session?, put]
  obtain ⟨w, signals, ending, eq⟩ :=
    complete_of_current found (by rw [absorb_isProcessing, busy]) outcome now
  rw [absorb_generation] at ending eq
  refine ⟨w, signals, ending, ?_⟩
  unfold apply
  simp only [h, busy, beq_self_eq_true, Bool.and_self, if_true, ends]
  rw [eq, put_eq_withDesk, withDesk_withDesk]

/-- Changing a session tells nobody. -/
theorem change_of_some {α : Type} {s : Session} (h : e.session? name = some s)
    (f : Session → Session) (answer : Session → α) :
    e.change name f answer =
      ⟨.ok (answer (f s)), e.withDesk name ⟨some (f s), e.waiters.get? name⟩, []⟩ := by
  unfold change
  simp only [h]
  rw [put_eq_withDesk]

/-- There is nothing to change without a session. -/
theorem change_of_none {α : Type} (h : e.session? name = none) (f : Session → Session)
    (answer : Session → α) :
    e.change name f answer = ⟨.error (.sessionNotFound name), e, []⟩ := by
  unfold change
  simp only [h]

/-- Aborting makes a session idle and calls its turn off, if there is anything to stop. -/
theorem abort_of_active {s : Session} (h : e.session? name = some s)
    (active : (s.isProcessing || !s.queue.isEmpty || e.waiters.contains name) = true)
    (now : Timestamp) :
    e.abort name now =
      ⟨.ok true, e.withDesk name ⟨some (s.stop now), none⟩, cancelled (e.waiters.get? name)⟩ := by
  unfold abort
  simp only [h, active, if_true]
  rw [dropWaiter_put, cancellation_eq]
  rfl

/-- Nothing to stop means that no turn is open, no prompt is queued, and nobody waits. -/
theorem idle_iff {s : Session} :
    (s.isProcessing || !s.queue.isEmpty || e.waiters.contains name) = false ↔
      s.isProcessing = false ∧ s.queue = [] ∧ e.waiters.get? name = none := by
  simp [Registry.contains, and_assoc]

/-- Aborting an idle session without a queue and a waiter leaves it as it is. -/
theorem abort_of_idle {s : Session} (h : e.session? name = some s)
    (idle : (s.isProcessing || !s.queue.isEmpty || e.waiters.contains name) = false)
    (now : Timestamp) :
    e.abort name now = ⟨.ok false, e.withDesk name ⟨some s, none⟩, []⟩ := by
  unfold abort
  simp only [h, idle, Bool.false_eq_true, if_false]
  rw [dropWaiter_eq_withDesk, h]

/-- Aborting without a session fails, and nobody is left waiting. -/
theorem abort_of_none (h : e.session? name = none) (now : Timestamp) :
    e.abort name now =
      ⟨.error (.sessionNotFound name), e.withDesk name ⟨none, none⟩, []⟩ := by
  unfold abort
  simp only [h]
  rw [dropWaiter_eq_withDesk, h]

/-- Without a session there is nothing to recover. -/
theorem recover_of_none (h : e.session? name = none) (text : String) (now : Timestamp) :
    e.recover name text now = ⟨.error (.sessionNotFound name), e, []⟩ := by
  simp only [recover, postNotice, change_of_none h]

/-- Recovering a session is aborting it after a notice and clearing the flag of a restored turn on
what is left. -/
private theorem recover_of_aborted {s : Session} (left : Session) {text : String}
    {now : Timestamp} {changed : Bool} {signals : List Signal} (h : e.session? name = some s)
    (aborted : (e.withDesk name ⟨some (s.notice text now), e.waiters.get? name⟩).abort name now =
      ⟨.ok changed, e.withDesk name ⟨some left, none⟩, signals⟩) :
    e.recover name text now =
      ⟨.ok changed, e.withDesk name ⟨some (left.setResumed false), none⟩, signals⟩ := by
  have posted : e.postNotice name text now =
      ⟨.ok (), e.withDesk name ⟨some (s.notice text now), e.waiters.get? name⟩, []⟩ :=
    change_of_some h _ _
  have found : (e.withDesk name ⟨some left, none⟩).session? name = some left := by simp
  simp only [recover, posted, aborted]
  rw [change_of_some found]
  simp [withDesk_withDesk]

/-- Whether there is anything to stop does not depend on a notice. -/
private theorem active_noticed {s : Session} {text : String} {now : Timestamp} :
    ((s.notice text now).isProcessing || !(s.notice text now).queue.isEmpty ||
        (e.withDesk name ⟨some (s.notice text now), e.waiters.get? name⟩).waiters.contains name) =
      (s.isProcessing || !s.queue.isEmpty || e.waiters.contains name) := by
  simp [Registry.contains, Session.notice, Session.push]

/-- Recovering a session leaves a notice and makes the session idle, if there is something to
stop. -/
theorem recover_of_active {s : Session} (h : e.session? name = some s)
    (active : (s.isProcessing || !s.queue.isEmpty || e.waiters.contains name) = true)
    (text : String) (now : Timestamp) :
    e.recover name text now =
      ⟨.ok true, e.withDesk name ⟨some ((s.notice text now).stop now), none⟩,
        cancelled (e.waiters.get? name)⟩ := by
  have aborted := abort_of_active (s := s.notice text now) (by simp)
    (active_noticed.trans active) now
  rw [withDesk_withDesk, waiter_withDesk, if_pos rfl] at aborted
  exact recover_of_aborted ((s.notice text now).stop now) h aborted

/-- Recovering an idle session notes the text, and leaves it not resumed. -/
theorem recover_of_idle {s : Session} (h : e.session? name = some s)
    (idle : (s.isProcessing || !s.queue.isEmpty || e.waiters.contains name) = false)
    (text : String) (now : Timestamp) :
    e.recover name text now =
      ⟨.ok false, e.withDesk name ⟨some ((s.notice text now).setResumed false), none⟩, []⟩ := by
  have aborted := abort_of_idle (s := s.notice text now) (by simp)
    (active_noticed.trans idle) now
  rw [withDesk_withDesk] at aborted
  exact recover_of_aborted (s.notice text now) h aborted

/-- No turn begins without a session. -/
theorem begin_of_none {prompt : String} {options : BeginOptions} {number : Nat}
    {startedAt now : Timestamp} (h : e.session? name = none) :
    e.begin name prompt options number startedAt now =
      ⟨.error (.sessionNotFound name), e, []⟩ := by
  unfold begin
  simp only [h]

/-- A turn is not begun over an open one unless overlapping is allowed. -/
theorem begin_of_busy {prompt : String} {options : BeginOptions} {number : Nat}
    {startedAt now : Timestamp} {s : Session} (h : e.session? name = some s)
    (busy : (s.isProcessing && !options.allowOverlap) = true) :
    e.begin name prompt options number startedAt now =
      ⟨.error (.alreadyProcessing name), e, []⟩ := by
  unfold begin
  simp only [h, busy, if_true]

/-- Beginning a turn replaces the waiter of the session, who hears that the turn is called off. -/
theorem begin_of_free {prompt : String} {options : BeginOptions} {number : Nat}
    {startedAt now : Timestamp} {s : Session} (h : e.session? name = some s)
    (free : (s.isProcessing && !options.allowOverlap) = false) :
    e.begin name prompt options number startedAt now =
      ⟨.ok s.nextTicket,
        e.withDesk name ⟨some (s.beginTurn now prompt options.suppressPrompt startedAt),
          some ⟨s.nextTicket, number⟩⟩,
        cancelled (e.waiters.get? name)⟩ := by
  have ticket := s.beginTurn_generation now prompt options.suppressPrompt startedAt
  unfold begin
  simp only [h, free, Bool.false_eq_true, if_false, cancellation_eq]
  rw [← ticket]
  rfl

/-- An idle session gives away the first prompt of its queue. -/
theorem takeNext_of_queued {s : Session} (h : e.session? name = some s)
    (idle : s.isProcessing = false) {prompt : String} {rest : List String}
    (queue : s.queue = prompt :: rest) :
    e.takeNext name =
      ⟨some prompt, e.withDesk name ⟨some { s with queue := rest }, e.waiters.get? name⟩, []⟩ := by
  unfold takeNext
  simp only [h, idle, queue]
  rw [put_eq_withDesk]

/-- Nothing is taken while a turn is open, or from an empty queue. -/
theorem takeNext_of_nothing
    (nothing : ∀ s, e.session? name = some s → s.isProcessing = true ∨ s.queue = []) :
    e.takeNext name = ⟨none, e, []⟩ := by
  unfold takeNext
  cases h : e.session? name with
  | none => rfl
  | some s =>
    rcases nothing s h with busy | empty
    · simp [busy]
    · simp [empty]

/-! ## Every operation is a deed -/

/-- A step is what some deed at the desk of the operation's session comes to. -/
def Does (e : Engine) (op : Operation) (s : Step Answer) : Prop :=
  ∃ d, Deed op (e.desk op.target) s.answer d s.signals ∧ s.engine = e.withDesk op.target d

private theorem desk_of_session? {session : Option Session} (h : e.session? name = session) :
    e.desk name = ⟨session, e.waiters.get? name⟩ := by
  rw [desk, h]

/-- An operation that is refused before it changes anything. -/
private theorem Does.refuse {op : Operation} (h : op.canFail = true) (failure : Failure) :
    e.Does op ⟨.refused failure, e, []⟩ :=
  ⟨e.desk op.target, .refused h, withDesk_desk.symm⟩

/-- A step that leaves a desk behind is the deed that does so. -/
private theorem Does.of_deed {op : Operation} {session : Option Session} {answer : Answer}
    {d : Desk} {signals : List Signal} (h : e.session? op.target = session)
    (deed : Deed op ⟨session, e.waiters.get? op.target⟩ answer d signals) :
    e.Does op ⟨answer, e.withDesk op.target d, signals⟩ := by
  refine ⟨d, ?_, rfl⟩
  rw [desk_of_session? h]
  exact deed

/-- Creating a session does one of its deeds: it is refused, or a session is created. -/
theorem create_does (s : Session) : e.Does (.create s) (e.perform (.create s)) := by
  show e.Does _ ((e.create s).map _)
  cases h : e.session? s.name with
  | none =>
    rw [create_of_none h]
    exact .of_deed h .created
  | some old =>
    rw [create_of_some h]
    exact .refuse rfl _

/-- Restoring a session does one of its deeds: it is refused, or a session is restored. -/
theorem restore_does (s : Session) (now : Timestamp) :
    e.Does (.restore s now) (e.perform (.restore s now)) := by
  show e.Does _ ((e.restore s now).map _)
  cases h : e.session? s.name with
  | none =>
    rw [restore_of_none h]
    exact .of_deed h .restored
  | some old =>
    rw [restore_of_some h]
    exact .refuse rfl _

/-- Closing a session does one of its deeds, whether there was one or not. -/
theorem close_does (name : String) : e.Does (.close name) (e.perform (.close name)) := by
  show e.Does _ ((e.close name).map _)
  cases h : e.session? name with
  | none =>
    rw [close_of_none h]
    exact .of_deed h .closedNothing
  | some s =>
    rw [close_of_some h]
    exact .of_deed h .closed

/-- Beginning a turn does one of its deeds: it is refused, or a turn begins. -/
theorem begin_does (name prompt : String) (options : BeginOptions) (number : Nat)
    (startedAt now : Timestamp) :
    e.Does (.begin name prompt options number startedAt now)
      (e.perform (.begin name prompt options number startedAt now)) := by
  show e.Does _ ((e.begin name prompt options number startedAt now).map _)
  cases h : e.session? name with
  | none =>
    rw [begin_of_none h]
    exact .refuse rfl _
  | some s =>
    cases free : s.isProcessing && !options.allowOverlap with
    | true =>
      rw [begin_of_busy h free]
      exact .refuse rfl _
    | false =>
      rw [begin_of_free h free]
      rw [Bool.and_eq_false_iff, Bool.not_eq_false'] at free
      exact .of_deed h (.begun free)

/-- An event does one of its deeds: it is ignored, is absorbed, or ends the turn. -/
theorem apply_does (name : String) (ticket : Nat) (event : StreamEvent) (now : Timestamp) :
    e.Does (.apply name ticket event now) (e.perform (.apply name ticket event now)) := by
  show e.Does _ ((e.apply name ticket event now).map _)
  by_cases stale : (e.desk name).Stale ticket
  · rw [apply_of_stale event now stale]
    exact ⟨e.desk name, .ignored stale, withDesk_desk.symm⟩
  · obtain ⟨s, h, busy, rfl⟩ := Desk.not_stale_iff.1 stale
    rw [desk_session] at h
    -- the event is one of the open turn, and the question is whether it ends that
    cases ends : outcomeOf? s event with
    | none =>
      rw [apply_of_absorbed h busy ends]
      exact .of_deed h (.absorbed busy ends)
    | some outcome =>
      obtain ⟨w, signals, ending, eq⟩ := apply_of_ended h busy ends now
      rw [eq]
      exact .of_deed h (.ended busy ends ending)

/-- Completing a turn does one of its deeds: nothing is moved, or the turn ends. -/
theorem complete_does (name : String) (ticket : Nat) (outcome : Outcome) (now : Timestamp) :
    e.Does (.complete name ticket outcome now) (e.perform (.complete name ticket outcome now)) := by
  show e.Does _ ((e.complete name ticket outcome now).map _)
  by_cases stale : (e.desk name).Stale ticket
  · rw [complete_of_stale outcome now stale]
    exact ⟨e.desk name, .unmoved stale, withDesk_desk.symm⟩
  · obtain ⟨s, h, busy, rfl⟩ := Desk.not_stale_iff.1 stale
    rw [desk_session] at h
    obtain ⟨w, signals, ending, eq⟩ := complete_of_current h busy outcome now
    rw [eq]
    exact .of_deed h (.completed busy ending)

/-- Aborting does one of its deeds, by whether there is a session and anything to stop. -/
theorem abort_does (name : String) (now : Timestamp) :
    e.Does (.abort name now) (e.perform (.abort name now)) := by
  show e.Does _ ((e.abort name now).map _)
  cases h : e.session? name with
  | none =>
    rw [abort_of_none h]
    exact .of_deed h .abortedNothing
  | some s =>
    cases active : s.isProcessing || !s.queue.isEmpty || e.waiters.contains name with
    | true =>
      rw [abort_of_active h active]
      exact .of_deed h .aborted
    | false =>
      -- nothing to stop means that nobody waits either, so the desk is as it was
      obtain ⟨idle, empty, nobody⟩ := idle_iff.1 active
      rw [abort_of_idle h active]
      refine .of_deed h ?_
      rw [Operation.target, nobody]
      exact .abortedIdle idle empty

/-- Taking a prompt off the queue does one of its deeds: nothing is taken, or the first prompt. -/
theorem takeNext_does (name : String) : e.Does (.takeNext name) (e.perform (.takeNext name)) := by
  show e.Does _ ((e.takeNext name).map _)
  by_cases nothing : ∀ s, e.session? name = some s → s.isProcessing = true ∨ s.queue = []
  · rw [takeNext_of_nothing nothing]
    exact ⟨e.desk name, .tookNothing, withDesk_desk.symm⟩
  · simp only [Classical.not_forall, not_or, Bool.not_eq_true] at nothing
    obtain ⟨s, h, idle, queued⟩ := nothing
    obtain ⟨prompt, rest, queue⟩ := List.exists_cons_of_ne_nil queued
    rw [takeNext_of_queued h idle queue]
    exact .of_deed h (.taken idle queue)

/-- Recovering does one of its deeds: it is refused, stops the turn, or finds nothing to stop. -/
theorem recover_does (name text : String) (now : Timestamp) :
    e.Does (.recover name text now) (e.perform (.recover name text now)) := by
  show e.Does _ ((e.recover name text now).map _)
  cases h : e.session? name with
  | none =>
    rw [recover_of_none h]
    exact .refuse rfl _
  | some s =>
    cases active : s.isProcessing || !s.queue.isEmpty || e.waiters.contains name with
    | true =>
      rw [recover_of_active h active]
      exact .of_deed h .recovered
    | false =>
      obtain ⟨idle, empty, nobody⟩ := idle_iff.1 active
      rw [recover_of_idle h active]
      refine .of_deed h ?_
      rw [Operation.target, nobody]
      exact .recoveredIdle idle empty

/-- A change that does a deed to any session does that deed, or fails without a session. -/
theorem change_does {α : Type} (op : Operation) (fails : op.canFail = true) (wrap : α → Answer)
    (f : Session → Session) (answer : Session → α)
    (deed : ∀ s w, Deed op ⟨some s, w⟩ (wrap (answer (f s))) ⟨some (f s), w⟩ []) :
    e.Does op ((e.change op.target f answer).map (.ofAttempt wrap)) := by
  cases h : e.session? op.target with
  | none =>
    rw [change_of_none h]
    exact .refuse fails _
  | some s =>
    rw [change_of_some h]
    exact .of_deed h (deed s _)

/-- Every operation is a deed. -/
theorem perform_does (e : Engine) (op : Operation) : e.Does op (e.perform op) := by
  cases op with
  | create s => exact create_does s
  | restore s now => exact restore_does s now
  | close name => exact close_does name
  | nextGeneration name => exact change_does _ rfl _ _ _ fun _ _ => .advanced
  | begin name prompt options number startedAt now => exact begin_does _ _ _ _ _ _
  | apply name ticket event now => exact apply_does name ticket event now
  | complete name ticket outcome now => exact complete_does name ticket outcome now
  | abort name now => exact abort_does name now
  | enqueue name prompt => exact change_does _ rfl _ _ _ fun _ _ => .enqueued
  | takeNext name => exact takeNext_does name
  | postNotice name text now => exact change_does _ rfl _ _ _ fun _ _ => .noticed
  | recover name text now => exact recover_does name text now
  | setModel name model => exact change_does _ rfl _ _ _ fun _ _ => .remodelled

/-- What an operation does at the desk of the session it names. -/
theorem perform_deed (e : Engine) (op : Operation) :
    Deed op (e.desk op.target) (e.perform op).answer ((e.perform op).engine.desk op.target)
      (e.perform op).signals := by
  obtain ⟨d, deed, eq⟩ := perform_does e op
  rw [eq, desk_withDesk, if_pos rfl]
  exact deed

/-- An operation leaves the desks of all sessions alone but the one it names. -/
theorem perform_desk_of_ne (e : Engine) (op : Operation) {name : String} (h : name ≠ op.target) :
    (e.perform op).engine.desk name = e.desk name := by
  obtain ⟨d, -, eq⟩ := perform_does e op
  rw [eq, desk_withDesk, if_neg h]

/-- An operation leaves the sessions of other names alone. -/
theorem session?_perform_of_ne (e : Engine) {op : Operation} {name : String}
    (h : name ≠ op.target) : (e.perform op).engine.session? name = e.session? name :=
  congrArg Desk.session (perform_desk_of_ne e op h)

end Engine

end Ensemble
