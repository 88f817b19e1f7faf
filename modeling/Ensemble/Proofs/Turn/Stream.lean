import Ensemble.Proofs.Session.Buffer
import Ensemble.Proofs.Session.Flags
import Ensemble.Proofs.Turn.Response
import Ensemble.Proofs.Turn.Ticket

/-!
# What streams into a session

While a turn is open its session takes in what the agent streams, and everything else that is done
to the session leaves notices at most.  `Session.Onward` lists how a session can go on from one
operation to the next, with the event it takes in and the entries that come into its transcript:
what each event moves there, and that closing the turn moves everything.  Every deed that neither
closes the session nor begins a turn is of this kind (`Deed.onward`), and so a run of such deeds
keeps what `Onward` keeps (`exists_after`).
-/

namespace Ensemble

namespace Session

/-- A session that has gone on from another: entries have come into the transcript, and this is
buffered now. -/
structure GoneOn (s s' : Session) (more : List Entry) (content reasoning : String) : Prop where
  transcript : s'.transcript = s.transcript ++ more
  content : s'.pendingContent = content
  reasoning : s'.pendingReasoning = reasoning

/-- How a session goes on unless it is closed or a turn is begun: the event that it takes in, and
the entries that come into its transcript. -/
inductive Onward (s : Session) : Option StreamEvent → List Entry → Session → Prop where
  /-- It takes in nothing, and only notices are posted. -/
  | noticed {notices : List Entry} {s' : Session} (only : ∀ e ∈ notices, e.role = .system)
      (gone : s.GoneOn s' notices s.pendingContent s.pendingReasoning)
      (same : s'.isProcessing = s.isProcessing) : Onward s none notices s'
  /-- Content flushes the reasoning before it. -/
  | content {chunk : String} {now : Timestamp} {s' : Session}
      (gone : s.GoneOn s' (flushed .reasoning s.pendingReasoning now)
        (s.pendingContent ++ chunk) "")
      (busy : s.isProcessing = true) (still : s'.isProcessing = true) :
      Onward s (some (.content chunk)) (flushed .reasoning s.pendingReasoning now) s'
  | reasoning {chunk : String} {s' : Session}
      (gone : s.GoneOn s' [] s.pendingContent (s.pendingReasoning ++ chunk))
      (busy : s.isProcessing = true) (still : s'.isProcessing = true) :
      Onward s (some (.reasoning chunk)) [] s'
  /-- A tool that begins flushes everything. -/
  | toolStarted {tool : String} {now : Timestamp} {s' : Session}
      (gone : s.GoneOn s' (s.buffered now ++ [.ofTool tool (tool ++ " started") now]) "" "")
      (busy : s.isProcessing = true) (still : s'.isProcessing = true) :
      Onward s (some (.toolStarted tool))
        (s.buffered now ++ [.ofTool tool (tool ++ " started") now]) s'
  /-- A tool that ends flushes nothing. -/
  | toolFinished {tool : String} {output : Option String} {now : Timestamp} {s' : Session}
      (gone : s.GoneOn s' [.ofTool tool (output.getD (tool ++ " finished")) now]
        s.pendingContent s.pendingReasoning)
      (busy : s.isProcessing = true) (still : s'.isProcessing = true) :
      Onward s (some (.toolFinished tool output))
        [.ofTool tool (output.getD (tool ++ " finished")) now] s'
  /-- The turn, if one is open, is closed, with an event that ends it or without one. -/
  | closed {event? : Option StreamEvent} {before after : List Entry} {now : Timestamp}
      {s' : Session} (terminal : ∀ event ∈ event?, event.isTerminal = true)
      (only : ∀ e ∈ before ++ after, e.role = .system)
      (gone : s.GoneOn s' (before ++ s.buffered now ++ after) "" "")
      (idle : s'.isProcessing = false) : Onward s event? (before ++ s.buffered now ++ after) s'

variable {s : Session}

/-- What has come into the transcript stands at its end. -/
theorem Onward.transcript {event? : Option StreamEvent} {more : List Entry} {s' : Session}
    (onward : s.Onward event? more s') : s'.transcript = s.transcript ++ more := by
  cases onward with
  | noticed _ gone | closed _ _ gone => exact gone.transcript
  | content gone | reasoning gone | toolStarted gone | toolFinished gone => exact gone.transcript

/-- A session that is left idle has nothing buffered, unless it was idle before and had. -/
theorem Onward.emptied {event? : Option StreamEvent} {more : List Entry} {s' : Session}
    (onward : s.Onward event? more s')
    (empty : s.isProcessing = false → s.pendingContent = "" ∧ s.pendingReasoning = "")
    (idle : s'.isProcessing = false) : s'.pendingContent = "" ∧ s'.pendingReasoning = "" := by
  cases onward with
  | noticed _ gone same =>
    rw [gone.content, gone.reasoning]
    exact empty (same ▸ idle)
  | closed _ _ gone => exact ⟨gone.content, gone.reasoning⟩
  | content _ _ still | reasoning _ _ still | toolStarted _ _ still | toolFinished _ _ still =>
    rw [still] at idle
    cases idle

/-- Taking in an event that does not end the turn. -/
theorem absorb_onward (busy : s.isProcessing = true) {event : StreamEvent}
    (goesOn : event.isTerminal = false) (now : Timestamp) :
    ∃ more, s.Onward (some event) more (Engine.absorb s event now) := by
  have still : (Engine.absorb s event now).isProcessing = true := by
    rw [Engine.absorb_isProcessing, busy]
  cases event with
  | content chunk =>
    refine ⟨_, .content ⟨s.flushReasoning_transcript_eq now, ?_, ?_⟩ busy still⟩
    · rw [Engine.absorb, appendContent, flushReasoning_eq]
    · rw [Engine.absorb, appendContent, flushReasoning_eq]
  | reasoning chunk => exact ⟨_, .reasoning ⟨(List.append_nil _).symm, rfl, rfl⟩ busy still⟩
  | toolStarted tool =>
    have flushed : (Engine.absorb s (.toolStarted tool) now).transcript =
        (s.flush now).transcript ++ [.ofTool tool (tool ++ " started") now] := rfl
    rw [flush_transcript_eq, List.append_assoc] at flushed
    exact ⟨_, .toolStarted ⟨flushed, s.flush_pendingContent now, s.flush_pendingReasoning now⟩ busy
      still⟩
  | toolFinished tool output => exact ⟨_, .toolFinished ⟨rfl, rfl, rfl⟩ busy still⟩
  | idle | fault => cases goesOn

/-- A session that is left idle has gone on if what was buffered has come into its transcript, with
nothing but notices before and after it. -/
theorem Onward.of_closed {event? : Option StreamEvent} (before after : List Entry)
    (now : Timestamp) {s' : Session} (terminal : ∀ event ∈ event?, event.isTerminal = true)
    (only : ∀ e ∈ before ++ after, e.role = .system)
    (transcript : s'.transcript = s.transcript ++ before ++ s.buffered now ++ after)
    (consistent : s'.Consistent) (idle : s'.isProcessing = false) :
    ∃ more, s.Onward event? more s' := by
  obtain ⟨-, -, -, content, reasoning⟩ := consistent.idle idle
  rw [List.append_assoc s.transcript, List.append_assoc s.transcript] at transcript
  exact ⟨_, .closed terminal only ⟨transcript, content, reasoning⟩ idle⟩

/-- Only notices come with the end of a turn. -/
theorem role_of_mem_notices {outcome : Outcome} {now : Timestamp} :
    ∀ e ∈ outcome.notices now, e.role = .system := by
  cases outcome <;> simp [Outcome.notices, Entry.ofRole]

theorem endTurn_onward {event? : Option StreamEvent}
    (terminal : ∀ event ∈ event?, event.isTerminal = true) (outcome : Outcome) (now : Timestamp) :
    ∃ more, s.Onward event? more (s.endTurn now outcome) := by
  refine Onward.of_closed [] (outcome.notices now) now terminal role_of_mem_notices ?_
    (s.endTurn_consistent now outcome) (s.endTurn_isProcessing now outcome)
  rw [endTurn_transcript, List.append_nil]

theorem stop_onward (now : Timestamp) : ∃ more, s.Onward none more (s.stop now) := by
  refine Onward.of_closed [] [] now (by simp) (by simp) ?_ (s.stop_consistent now)
    (s.stop_isProcessing now)
  rw [stop_transcript, List.append_nil, List.append_nil]

/-- A session that is stopped after a notice. -/
theorem notice_stop_onward (text : String) (now : Timestamp) :
    ∃ more, s.Onward none more ((s.notice text now).stop now) := by
  refine Onward.of_closed [.ofRole .system text now] [] now (by simp) (by simp [Entry.ofRole]) ?_
    (stop_consistent _ now) (stop_isProcessing _ now)
  rw [stop_transcript, List.append_nil]
  rfl

/-- An event that ends the turn ends it with everything in the transcript. -/
theorem absorb_endTurn_onward {event : StreamEvent} {outcome : Outcome}
    (ends : Engine.outcomeOf? s event = some outcome) (now : Timestamp) :
    ∃ more, s.Onward (some event) more ((Engine.absorb s event now).endTurn now outcome) := by
  cases event with
  | idle =>
    -- idle has flushed already, so that ending the turn finds nothing buffered
    have flushed : (Engine.absorb s .idle now).transcript = s.transcript ++ s.buffered now :=
      s.flush_transcript_eq now
    have nothing : (Engine.absorb s .idle now).buffered now = [] := s.buffered_flush now now
    refine Onward.of_closed [] (outcome.notices now) now (by simp [StreamEvent.isTerminal])
      role_of_mem_notices ?_ (endTurn_consistent _ now outcome) (endTurn_isProcessing _ now outcome)
    rw [endTurn_transcript, flushed, nothing, List.append_nil, List.append_nil]
  | fault message => exact endTurn_onward (by simp [StreamEvent.isTerminal]) outcome now
  | _ => cases ends

end Session

namespace Engine

variable {e : Engine} {name : String}

/-! ## The events that are taken in -/

/-- The event that an operation brings to a session, if the session takes it in. -/
def eventTaken? (name : String) (op : Operation) (answer : Answer) : Option StreamEvent :=
  match op, answer with
  | .apply other _ event _, .disposition disposition =>
    if other = name ∧ disposition ≠ .ignored then some event else none
  | _, _ => none

/-- The events that a session takes in while operations are performed, in order. -/
def eventsTaken (name : String) : Engine → List Operation → List StreamEvent
  | _, [] => []
  | e, op :: rest =>
    let s := e.perform op
    (eventTaken? name op s.answer).toList ++ eventsTaken name s.engine rest

/-- Other sessions' events are not taken in. -/
theorem eventTaken?_of_ne {op : Operation} (other : name ≠ op.target) (answer : Answer) :
    eventTaken? name op answer = none := by
  cases op with
  | apply session ticket event now =>
    cases answer with
    | disposition => exact if_neg fun taken => other taken.1.symm
    | _ => rfl
  | _ => rfl

/-- An event that is not ignored is taken in. -/
theorem eventTaken?_apply (name : String) (ticket : Nat) (event : StreamEvent) (now : Timestamp)
    (disposition : Disposition) :
    eventTaken? name (.apply name ticket event now) (.disposition disposition) =
      if disposition = .ignored then none else some event := by
  simp only [eventTaken?, true_and, ne_eq, ite_not]

/-- An operation that is refused brings no event. -/
theorem eventTaken?_refused (op : Operation) (failure : Failure) :
    eventTaken? name op (.refused failure) = none := by
  cases op <;> rfl

/-! ## Every deed carries a session on -/

/-- Unless it is closed or a turn is begun, a session goes on, with the event it takes in. -/
theorem Deed.onward {op : Operation} {d d' : Desk} {answer : Answer} {signals : List Signal}
    (deed : Deed op d answer d' signals) (stays : ∀ name, op ≠ .close name)
    (begins : ∀ ticket, answer ≠ .ticket ticket) {s : Session} (found : d.session = some s) :
    ∃ s' more, d'.session = some s' ∧ s.Onward (eventTaken? op.target op answer) more s' := by
  have quiet {s' : Session} (transcript : s'.transcript = s.transcript)
      (content : s'.pendingContent = s.pendingContent)
      (reasoning : s'.pendingReasoning = s.pendingReasoning)
      (busy : s'.isProcessing = s.isProcessing) : s.Onward none [] s' :=
    .noticed (by simp) ⟨by simpa using transcript, content, reasoning⟩ busy
  cases deed with
  | refused =>
    rw [eventTaken?_refused]
    exact ⟨s, [], found, quiet rfl rfl rfl rfl⟩
  | ignored =>
    rw [Operation.target, eventTaken?_apply, if_pos rfl]
    exact ⟨s, [], found, quiet rfl rfl rfl rfl⟩
  | unmoved | abortedIdle | tookNothing => exact ⟨s, [], found, quiet rfl rfl rfl rfl⟩
  | created | restored | closedNothing | abortedNothing => cases found
  | closed => exact absurd rfl (stays _)
  | begun => exact absurd rfl (begins _)
  | advanced | enqueued | taken | remodelled =>
    cases found
    exact ⟨_, [], rfl, quiet rfl rfl rfl rfl⟩
  | noticed | recoveredIdle =>
    cases found
    exact ⟨_, [.ofRole .system _ _], rfl, .noticed (by simp [Entry.ofRole]) ⟨rfl, rfl, rfl⟩ rfl⟩
  | absorbed busy goesOn =>
    cases found
    rw [Operation.target, eventTaken?_apply, if_neg (by simp)]
    obtain ⟨more, onward⟩ := Session.absorb_onward busy (isTerminal_of_goesOn goesOn) _
    exact ⟨_, more, rfl, onward⟩
  | ended _ ends =>
    cases found
    rw [Operation.target, eventTaken?_apply, if_neg (by simp)]
    obtain ⟨more, onward⟩ := Session.absorb_endTurn_onward ends _
    exact ⟨_, more, rfl, onward⟩
  | completed =>
    cases found
    have none_terminal : ∀ event ∈ (none : Option StreamEvent), event.isTerminal = true := by simp
    obtain ⟨more, onward⟩ := Session.endTurn_onward none_terminal _ _
    exact ⟨_, more, rfl, onward⟩
  | aborted =>
    cases found
    obtain ⟨more, onward⟩ := s.stop_onward _
    exact ⟨_, more, rfl, onward⟩
  | recovered =>
    cases found
    obtain ⟨more, onward⟩ := s.notice_stop_onward _ _
    exact ⟨_, more, rfl, onward⟩

/-! ## Runs within a turn -/

theorem after_append (e : Engine) (ops more : List Operation) :
    e.after (ops ++ more) = (e.after ops).after more :=
  List.foldl_append ..

theorem tickets_append (name : String) (e : Engine) (ops more : List Operation) :
    tickets name e (ops ++ more) = tickets name e ops ++ tickets name (e.after ops) more := by
  induction ops generalizing e with
  | nil => rfl
  | cons op rest ih => simp only [List.cons_append, tickets, after_cons, ih, List.append_assoc]

/-- What a session keeps as it goes on, it keeps over a run that neither closes it nor begins a
turn, together with the events that it takes in and the entries that come into its transcript. -/
theorem exists_after {P : List StreamEvent → List Entry → Session → Prop}
    (keeps : ∀ {events added s event? more s'}, P events added s → s.Onward event? more s' →
      P (events ++ event?.toList) (added ++ more) s')
    {ops : List Operation} (stays : Operation.close name ∉ ops) (alone : tickets name e ops = [])
    {s : Session} (found : e.session? name = some s) (events : List StreamEvent)
    (added : List Entry) (holds : P events added s) :
    ∃ t more, (e.after ops).session? name = some t ∧ t.transcript = s.transcript ++ more ∧
      P (events ++ eventsTaken name e ops) (added ++ more) t := by
  induction ops generalizing e s events added with
  | nil => exact ⟨s, [], found, by simp, by simpa [eventsTaken] using holds⟩
  | cons op rest ih =>
    rw [tickets, List.append_eq_nil_iff, Option.toList_eq_nil_iff] at alone
    have step : ∃ s' more, (e.perform op).engine.session? name = some s' ∧
        s.Onward (eventTaken? name op (e.perform op).answer) more s' := by
      -- An operation on another session streams nothing into this one.
      by_cases here : name = op.target
      · subst here
        refine (perform_deed e op).onward ?_ (fun ticket given => ?_) found
        · rintro other rfl
          exact stays List.mem_cons_self
        · rw [ticketGiven?_eq_some.2 ⟨rfl, given⟩] at alone
          cases alone.1
      · rw [eventTaken?_of_ne here, session?_perform_of_ne e here]
        exact ⟨s, [], found, .noticed (by simp) ⟨by simp, rfl, rfl⟩ rfl⟩
    obtain ⟨s', more, found', onward⟩ := step
    obtain ⟨t, rest', there, transcript, holds'⟩ :=
      ih (fun mem => stays (List.mem_cons_of_mem op mem)) alone.2 found' _ _ (keeps holds onward)
    refine ⟨t, more ++ rest', there, ?_, ?_⟩
    · rw [transcript, onward.transcript, List.append_assoc]
    · simpa only [eventsTaken, List.append_assoc] using holds'

/-- A turn that is begun leaves its session with the prompt in the transcript, unless that is
suppressed, and with nothing buffered. -/
theorem Deed.begun_session {name prompt : String} {options : BeginOptions} {number ticket : Nat}
    {startedAt now : Timestamp} {d d' : Desk} {signals : List Signal}
    (deed : Deed (.begin name prompt options number startedAt now) d (.ticket ticket) d' signals) :
    ∃ s, d.session = some s ∧
      d'.session = some (s.beginTurn now prompt options.suppressPrompt startedAt) := by
  cases deed with
  | begun => exact ⟨_, rfl, rfl⟩

end Engine

end Ensemble
