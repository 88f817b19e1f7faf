import Ensemble.Proofs.Hub.Record
import Ensemble.Proofs.Turn.Response

/-!
# Responses from interleaved streams

The events of all turns reach the hub as messages, in between those of callers, and those of a turn
that is over may come late.  However they are interleaved (`Interleaving`), a turn that completes
answers the content of its own stream up to where its agent was first idle.
-/

namespace Ensemble

open Engine (Operation History)

/-- The session that an effect says is closed. -/
def HubEffect.closed? : HubEffect → Option String
  | .observe session .closed => some session
  | _ => none

/-- Whether a request adds a session under a name. -/
def HubRequest.adds (name : String) : HubRequest → Bool
  | .create session _ => session == name
  | .restore s => s.name == name
  | _ => false

/-- Whether a request completes a turn from outside. -/
def HubRequest.isCompletion : HubRequest → Bool
  | .complete .. => true
  | _ => false

/-- The event that a message brings for a turn. -/
def HubMessage.eventFor? (name : String) (ticket : Nat) : HubMessage → Option StreamEvent
  | .streamed session number event =>
    if session = name ∧ number = ticket then some event else none
  | _ => none

namespace Hub

/-- The events that messages bring for a turn, in order. -/
def eventsFor (messages : List (HubMessage × Timestamp)) (name : String) (ticket : Nat) :
    List StreamEvent :=
  messages.filterMap fun message => message.1.eventFor? name ticket

/-- The effects of all messages to a hub that starts with some agents. -/
def effectsOf (agents : Agents) (messages : List (HubMessage × Timestamp)) : List HubEffect :=
  ((start agents).handleAll messages).2

/--
The messages that reach a hub when each turn that is asked has a stream.  The events of a stream
come in its order, in between those of other streams and the requests of callers.  No name is used
again after its session was closed, and no caller completes a turn.
-/
inductive Interleaving (agents : Agents) (stream : String → Nat → List StreamEvent) :
    List (HubMessage × Timestamp) → Prop where
  | nil : Interleaving agents stream []
  | request {messages} (before : Interleaving agents stream messages) (caller : Nat)
      (request : HubRequest) (now : Timestamp) (inside : request.isCompletion = false)
      (fresh : ∀ name ∈ (effectsOf agents messages).filterMap HubEffect.closed?,
        request.adds name = false) :
      Interleaving agents stream (messages ++ [(.request caller request, now)])
  | streamed {messages} (before : Interleaving agents stream messages) (session : String)
      (ticket : Nat) (event : StreamEvent) (now : Timestamp)
      (asked : ∃ turn ∈ turnsAsked (effectsOf agents messages),
        turn.session = session ∧ turn.ticket = ticket)
      (next : eventsFor messages session ticket ++ [event] <+: stream session ticket) :
      Interleaving agents stream (messages ++ [(.streamed session ticket event, now)])
  | shutdown {messages} (before : Interleaving agents stream messages) (now : Timestamp) :
      Interleaving agents stream (messages ++ [(.shutdown, now)])

variable {h : Hub} {effects : List HubEffect} {history : History}

/-- Draining a queue neither adds nor closes a session. -/
theorem isPlain_of_mem_drainOperations {e : Engine} {session : String} {now : Timestamp}
    {op : Operation} (mem : op ∈ drainOperations e session now) : op.isPlain = true := by
  unfold drainOperations at mem
  split at mem
  next => simp at mem; rcases mem with rfl | rfl <;> rfl
  next => cases mem

/-- Most requests neither add nor close a session. -/
theorem isPlain_of_mem_operations {e : Engine} {request : HubRequest} {now : Timestamp}
    (inside : request.isCompletion = false) (adds : ∀ name, request.adds name = false)
    (closes : ∀ session, request ≠ .close session) {op : Operation}
    (mem : op ∈ operations e request now) : op.isPlain = true := by
  cases request with
  | create session model => exact absurd (adds session) (by simp [HubRequest.adds])
  | restore s => exact absurd (adds s.name) (by simp [HubRequest.adds])
  | close session => exact absurd rfl (closes session)
  | complete => cases inside
  -- whether it begins a turn or queues, it is plain
  | submit session prompt =>
    simp only [operations] at mem
    split at mem <;> (rw [List.mem_singleton.1 mem]; rfl)
  | scan =>
    obtain ⟨turn, -, rfl⟩ := List.mem_map.1 mem
    rfl
  | snapshot | list => cases mem
  | _ =>
    rw [List.mem_singleton.1 mem]
    rfl

/-- Draining a queue takes one session to its next generation at most. -/
theorem countP_drainOperations_le (e : Engine) (session : String) (now : Timestamp) :
    (drainOperations e session now).countP (·.counts) ≤ 1 := by
  unfold drainOperations
  split
  next => exact Nat.le_refl 1
  next => exact Nat.zero_le 1

/-- And so does answering a request. -/
theorem countP_operations_le (e : Engine) (request : HubRequest) (now : Timestamp) :
    (operations e request now).countP (·.counts) ≤ 1 := by
  cases request with
  | create session model =>
    simp only [operations]
    split
    next => exact Nat.zero_le 1
    next => exact List.countP_le_length
  | submit session prompt =>
    simp only [operations]
    split <;> exact List.countP_le_length
  | scan time settings multiAgent =>
    -- however many turns are stopped, none is begun
    have none : (operations e (.scan time settings multiAgent) now).countP (·.counts) = 0 := by
      refine List.countP_eq_zero.2 fun op mem => ?_
      obtain ⟨turn, -, rfl⟩ := List.mem_map.1 mem
      exact Bool.false_ne_true
    rw [none]
    exact Nat.zero_le 1
  | snapshot | list => exact Nat.zero_le 1
  | _ => exact List.countP_le_length

/-- Whether effects say that the session of a name is closed. -/
def ClosedIn (effects : List HubEffect) (name : String) : Prop :=
  name ∈ effects.filterMap HubEffect.closed?

/-- What was closed in some effects was closed in more of them. -/
theorem ClosedIn.mono {name : String} {more : List HubEffect} (h : ClosedIn effects name)
    (sub : effects ⊆ more) : ClosedIn more name := by
  obtain ⟨effect, mem, same⟩ := List.mem_filterMap.1 h
  exact List.mem_filterMap.2 ⟨effect, sub mem, same⟩

/-- A session that is closed on request is said to be. -/
theorem closedIn_answer_close {session : String} {s : Session}
    (closes : (h.engine.close session).answer = .ok s) (now : Timestamp) :
    ClosedIn (h.answer (.close session) now).effects session := by
  have closes' : (h.work (h.engine.close session)).answer = .ok s := closes
  simp [ClosedIn, answer, closes', HubEffect.closed?]

variable {heard : String → Nat → List StreamEvent} {count : Nat}

/-- Answering a request keeps the history sound, and one more generation is counted. -/
theorem Recorded.sound_answer (r : Recorded h effects history)
    (sound : history.Sound heard (ClosedIn effects) count) (room : count < maxWord64)
    {request : HubRequest} (inside : request.isCompletion = false)
    (fresh : ∀ name, ClosedIn effects name → request.adds name = false) (now : Timestamp) :
    (history.performAll (operations h.engine request now)).Sound heard
      (ClosedIn (effects ++ (h.answer request now).effects)) (count + 1) := by
  have more : ∀ name, ClosedIn effects name →
      ClosedIn (effects ++ (h.answer request now).effects) name :=
    fun name closed => closed.mono (List.subset_append_left _ _)
  -- requests are told apart by what they do to sessions: close one, add one, or neither
  by_cases closes : ∃ session, request = .close session
  · obtain ⟨session, rfl⟩ := closes
    refine (sound.close (Nat.le_of_lt room) session).mono (fun name how => ?_) (Nat.le_succ count)
    rcases how with closed | ⟨rfl, s, closes⟩
    · exact more name closed
    · rw [r.engine] at closes
      exact (closedIn_answer_close closes now).mono (List.subset_append_right _ _)
  by_cases adds : ∃ name, request.adds name = true
  · obtain ⟨name, adds⟩ := adds
    have open_ : ¬ ClosedIn effects name := by
      intro closed
      rw [fresh name closed] at adds
      cases adds
    refine Engine.History.Sound.mono ?_ more (Nat.le_succ count)
    cases request with
    | create session model =>
      simp only [operations]
      cases created : Session.create session model now with
      | error failure => exact sound
      | ok s =>
        obtain rfl := Session.eq_fresh_of_create created
        obtain rfl := eq_of_beq adds
        exact (sound.add (Nat.le_of_lt room) open_ now).1
    | restore s =>
      obtain rfl := eq_of_beq adds
      exact (sound.add (Nat.le_of_lt room) open_ now).2
    | _ => cases adds
  · have counted := countP_operations_le h.engine request now
    refine (sound.performAll (fun op mem => ?_) (by omega)).mono more (by omega)
    refine isPlain_of_mem_operations inside (fun name => ?_) (fun session same => ?_) mem
    · cases added : request.adds name with
      | false => rfl
      | true => exact absurd ⟨name, added⟩ adds
    · exact closes ⟨session, same⟩

/-- Handling a request keeps the history sound, and two more generations are counted. -/
theorem Recorded.sound_request (r : Recorded h effects history)
    (sound : history.Sound heard (ClosedIn effects) count) (room : count + 2 ≤ maxWord64)
    {request : HubRequest} (inside : request.isCompletion = false)
    (fresh : ∀ name, ClosedIn effects name → request.adds name = false) (caller : Nat)
    (now : Timestamp) :
    (history.performAll (h.messageOperations (.request caller request) now)).Sound heard
      (ClosedIn (effects ++ (h.handle (.request caller request) now).2)) (count + 2) := by
  have answered := r.sound_answer sound (by omega) inside fresh now
  have more : (h.answer request now).effects ⊆ (h.handle (.request caller request) now).2 := by
    simp only [Hub.handle]
    split
    · exact List.Subset.trans (List.subset_append_left _ _) (List.subset_append_left _ _)
    · exact List.subset_append_left _ _
  have closed : ∀ name, ClosedIn (effects ++ (h.answer request now).effects) name →
      ClosedIn (effects ++ (h.handle (.request caller request) now).2) name := by
    refine fun name closed => closed.mono fun effect mem => ?_
    rcases List.mem_append.1 mem with old | new
    · exact List.mem_append_left _ old
    · exact List.mem_append_right _ (more new)
  rw [messageOperations, History.performAll_append]
  split
  next session _ =>
    -- draining begins one turn at most, so one more ticket has to have room
    have counted := countP_drainOperations_le (h.answer request now).hub.engine session now
    exact (answered.performAll (fun op => isPlain_of_mem_drainOperations)
      (Nat.le_trans (Nat.add_le_add_left counted _) room)).mono closed
      (Nat.add_le_add_left counted _)
  next => exact answered.mono closed (Nat.le_succ _)

/-- Handling an event of a turn that was asked keeps the history sound, and one more generation is
counted. -/
theorem sound_streamed (h : Hub) (sound : history.Sound heard (ClosedIn effects) count)
    (room : count < maxWord64) {session : String} {ticket : Nat}
    (asked : history.Knows session ticket) (event : StreamEvent) (now : Timestamp) :
    (history.performAll (h.messageOperations (.streamed session ticket event) now)).Sound
      (fun name number => heard name number ++
        ((HubMessage.streamed session ticket event).eventFor? name number).toList)
      (ClosedIn (effects ++ (h.handle (.streamed session ticket event) now).2)) (count + 1) := by
  have applied := sound.perform (.apply session ticket event now) asked (by simp)
    (Nat.le_of_lt room)
  have closed : ∀ name, ClosedIn effects name →
      ClosedIn (effects ++ (h.handle (.streamed session ticket event) now).2) name :=
    fun name closed => closed.mono (List.subset_append_left _ _)
  rw [messageOperations, History.performAll_cons]
  cases (h.apply session ticket event now).answer with
  | false => exact applied.mono closed (Nat.le_succ count)
  | true =>
    -- the event may end the turn, and then the queue is drained
    have counted := countP_drainOperations_le (h.apply session ticket event now).hub.engine
      session now
    exact (applied.performAll (fun op => isPlain_of_mem_drainOperations)
      (Nat.le_trans (Nat.add_le_add_left counted _) room)).mono closed
      (Nat.add_le_add_left counted _)

/-! ## Interleaved streams -/

/-- The last message adds its event, if it has one. -/
theorem eventsFor_concat (messages : List (HubMessage × Timestamp)) (message : HubMessage)
    (now : Timestamp) :
    eventsFor (messages ++ [(message, now)]) = fun name ticket =>
      eventsFor messages name ticket ++ (message.eventFor? name ticket).toList := by
  funext name ticket
  rw [eventsFor, List.filterMap_append]
  cases found : message.eventFor? name ticket <;> simp [eventsFor, found]

/-- The last message is handled by the hub that the others leave. -/
theorem handleAll_concat (h : Hub) (messages : List (HubMessage × Timestamp))
    (message : HubMessage) (now : Timestamp) :
    h.handleAll (messages ++ [(message, now)]) =
      (((h.handleAll messages).1.handle message now).1,
        (h.handleAll messages).2 ++ ((h.handleAll messages).1.handle message now).2) := by
  rw [handleAll_append]
  simp [handleAll]

variable {agents : Agents} {stream : String → Nat → List StreamEvent}
  {messages : List (HubMessage × Timestamp)}

/-- The record of a hub goes on with the operations of the last message. -/
theorem Recorded.concat
    (r : Recorded ((Hub.start agents).handleAll messages).1 (effectsOf agents messages) history)
    (message : HubMessage) (now : Timestamp) :
    Recorded ((Hub.start agents).handleAll (messages ++ [(message, now)])).1
      (effectsOf agents (messages ++ [(message, now)]))
      (history.performAll
        (((Hub.start agents).handleAll messages).1.messageOperations message now)) := by
  rw [effectsOf, handleAll_concat]
  exact r.handle message now

/-- What has come for a turn is the beginning of its stream. -/
theorem Interleaving.eventsFor_prefix (run : Interleaving agents stream messages) (name : String)
    (ticket : Nat) : eventsFor messages name ticket <+: stream name ticket := by
  induction run with
  | nil => exact List.nil_prefix
  | request before caller request now inside fresh ih | shutdown before now ih =>
    rw [eventsFor_concat]
    simpa [HubMessage.eventFor?] using ih
  | streamed before session number event now asked next ih =>
    rw [eventsFor_concat]
    by_cases here : session = name ∧ number = ticket
    · obtain ⟨rfl, rfl⟩ := here
      simpa [HubMessage.eventFor?] using next
    · simpa [HubMessage.eventFor?, here] using ih

/-- Interleaved streams make a sound history, in which two generations are counted for a message. -/
theorem Interleaving.sound (patient : agents.areImmediate = false)
    (run : Interleaving agents stream messages) (room : 2 * messages.length ≤ maxWord64) :
    ∃ history, Recorded ((start agents).handleAll messages).1 (effectsOf agents messages) history ∧
      history.Sound (eventsFor messages) (ClosedIn (effectsOf agents messages))
        (2 * messages.length) := by
  induction run with
  | nil => exact ⟨.start, .start patient, .start _⟩
  | request before caller request now inside fresh ih =>
    rw [List.length_append, List.length_singleton] at room ⊢
    obtain ⟨history, r, sound⟩ := ih (by omega)
    refine ⟨_, r.concat (.request caller request) now, ?_⟩
    -- a message takes up two tickets at most: its own, and one for the queue
    have handled := r.sound_request sound (by omega) inside fresh caller now
    simpa only [effectsOf, handleAll_concat, eventsFor_concat, HubMessage.eventFor?,
      Option.toList_none, List.append_nil, Nat.mul_add_one] using handled
  | @streamed messages before session ticket event now asked next ih =>
    rw [List.length_append, List.length_singleton] at room ⊢
    obtain ⟨history, r, sound⟩ := ih (by omega)
    refine ⟨_, r.concat (.streamed session ticket event) now, ?_⟩
    rw [← r.begun] at asked
    have handled := sound_streamed ((start agents).handleAll messages).1 sound (by omega) asked
      event now
    have counted := handled.mono (fun _ => id) (show _ ≤ 2 * (messages.length + 1) by omega)
    simpa only [effectsOf, handleAll_concat, eventsFor_concat] using counted
  | @shutdown messages before now ih =>
    rw [List.length_append, List.length_singleton] at room ⊢
    obtain ⟨history, r, sound⟩ := ih (by omega)
    refine ⟨_, r.concat .shutdown now, ?_⟩
    have counted := sound.mono (fun _ => id) (show _ ≤ 2 * (messages.length + 1) by omega)
    simpa [effectsOf, handleAll_concat, eventsFor_concat, HubMessage.eventFor?, handle,
      messageOperations] using counted

/-- A signal is among the effects if it is among their signals. -/
theorem signal_mem_iff {effects : List HubEffect} {signal : Signal} :
    .signal signal ∈ effects ↔ signal ∈ effects.filterMap HubEffect.signal? := by
  rw [List.mem_filterMap]
  constructor
  · intro mem
    exact ⟨_, mem, rfl⟩
  · rintro ⟨effect, mem, same⟩
    cases effect with
    | signal outcome =>
      cases same
      exact mem
    | _ => cases same

/-- The events of a stream before its first idle one. -/
def untilIdle (events : List StreamEvent) : List StreamEvent :=
  events.takeWhile (· ≠ .idle)

/-- The stream up to its first idle event is what came before that event. -/
theorem untilIdle_eq {stream events rest : List StreamEvent}
    (h : events ++ .idle :: rest <+: stream)
    (goesOn : ∀ event ∈ events, event.isTerminal = false) :
    .idle ∈ stream ∧ untilIdle stream = events := by
  obtain ⟨more, rfl⟩ := h
  have others : ∀ event ∈ events, decide (event ≠ .idle) = true := by
    intro event mem
    refine decide_eq_true ?_
    rintro rfl
    cases goesOn _ mem
  refine ⟨by simp, ?_⟩
  rw [untilIdle, List.append_assoc, List.takeWhile_append_of_pos others]
  simp

/--
However the events of turns are interleaved with each other and with the requests of callers: if a
turn completes, its response is the content of its own stream up to where the agent was idle first.
A caller who was told of the turn knows its ticket, and no other turn has session and ticket in
common with it.

A message starts two generations of a session at most: the bound on the messages says that tickets,
which are words of 64 bits, do not come round again.
-/
theorem response_eq_own_content {agents : Agents} (patient : agents.areImmediate = false)
    {stream : String → Nat → List StreamEvent} {messages : List (HubMessage × Timestamp)}
    (run : Interleaving agents stream messages) (room : 2 * messages.length ≤ maxWord64)
    {number : Nat} {response : String}
    (told : .signal ⟨number, .completed response⟩ ∈ effectsOf agents messages) :
    ∃ turn ∈ turnsAsked (effectsOf agents messages), turn.number = number ∧
      (∀ caller opened, .reply caller (.ok (.opened opened)) ∈ effectsOf agents messages →
        opened.number = number → opened.ticket = turn.ticket) ∧
      (∀ other ∈ turnsAsked (effectsOf agents messages),
        other.session = turn.session → other.ticket = turn.ticket → other = turn) ∧
      .idle ∈ stream turn.session turn.ticket ∧
      response = textOf (untilIdle (stream turn.session turn.ticket)) := by
  obtain ⟨history, r, sound⟩ := run.sound patient room
  have kept := sound.faithful.kept
  rw [signal_mem_iff, ← r.sent] at told
  rw [← r.begun]
  obtain ⟨turn, begun, same, events, rest, came, rfl, goesOn⟩ :=
    sound.faithful.told number response told
  have stream' := run.eventsFor_prefix turn.session turn.ticket
  rw [came] at stream'
  -- what has come is the beginning of the stream, and it goes beyond the first idle event
  obtain ⟨idle, own⟩ := untilIdle_eq stream' goesOn
  refine ⟨turn, begun, same, ?_, ?_, idle, congrArg textOf own.symm⟩
  · intro caller opened replied number'
    obtain ⟨turn', begun', ticket, number''⟩ := r.replied caller opened replied
    have : turn' = turn := kept.accounted.eq_of_number_eq begun' begun (by omega)
    rw [← ticket, this]
  · intro other begun' session ticket
    exact List.inj_on_of_nodup_map sound.faithful.attentive.apart begun' begun
      (Prod.ext session ticket)

/-- Of an aborted turn a late event comes between those of the next turn, which leaves it out. -/
theorem late_event_left_out :
    let now : Timestamp := ⟨0, 0⟩
    let agents : Agents := .scripted ⟨.empty, none⟩ false
    let stream : String → Nat → List StreamEvent := fun _ ticket =>
      if ticket = 1 then [.content "old", .content "late", .idle]
      else [.content "new", .content "er", .idle, .content "more"]
    let messages : List (HubMessage × Timestamp) :=
      [(.request 0 (.create "a" "m"), now), (.request 1 (.submit "a" "first"), now),
        (.streamed "a" 1 (.content "old"), now), (.request 2 (.abort "a"), now),
        (.request 3 (.submit "a" "second"), now), (.streamed "a" 2 (.content "new"), now),
        (.streamed "a" 1 (.content "late"), now), (.streamed "a" 2 (.content "er"), now),
        (.streamed "a" 2 .idle, now)]
    agents.areImmediate = false ∧ Interleaving agents stream messages ∧
      .signal ⟨2, .completed "newer"⟩ ∈ effectsOf agents messages ∧
      ∃ turn ∈ turnsAsked (effectsOf agents messages), turn.number = 2 ∧
        "newer" = textOf (untilIdle (stream turn.session turn.ticket)) := by
  intro now agents stream messages
  have run : Interleaving agents stream messages := by
    have start : Interleaving agents stream [] := .nil
    have first := (start.request 0 (.create "a" "m") now rfl (by decide)).request 1
      (.submit "a" "first") now rfl (by decide)
    have aborted := (first.streamed "a" 1 (.content "old") now (by decide) (by decide)).request 2
      (.abort "a") now rfl (by decide)
    have second := aborted.request 3 (.submit "a" "second") now rfl (by decide)
    have late := (second.streamed "a" 2 (.content "new") now (by decide) (by decide)).streamed
      "a" 1 (.content "late") now (by decide) (by decide)
    exact (late.streamed "a" 2 (.content "er") now (by decide) (by decide)).streamed
      "a" 2 .idle now (by decide) (by decide)
  have told : .signal ⟨2, .completed "newer"⟩ ∈ effectsOf agents messages :=
    signal_mem_iff.2 (by decide)
  obtain ⟨turn, asked, number, -, -, -, own⟩ := response_eq_own_content rfl run (by decide) told
  exact ⟨rfl, run, told, turn, asked, number, own⟩

end Hub

end Ensemble
