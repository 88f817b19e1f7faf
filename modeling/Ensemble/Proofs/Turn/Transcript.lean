import Ensemble.Proofs.Turn.Stream

/-!
# Streamed text is kept

On its way to the transcript, text that an agent streams waits in a buffer, and five places move it
on.  None of it is lost and none of it is told twice: the entries that a turn has added and the
buffer make up the chunks that came, for content and for reasoning alike, and every tool event has
made one entry (`Session.Streamed`).  Each way of going on keeps this (`Session.Streamed.onward`),
and so does a run within the turn (`Engine.streamed_text_kept`).
-/

namespace Ensemble

/-! ## What events bring -/

namespace StreamEvent

/-- The reasoning that an event brings. -/
def thought : StreamEvent → String
  | reasoning chunk => chunk
  | _ => ""

/-- The tool and the text that the entry of an event names; none if the event makes no entry of its
own. -/
def toolNote? : StreamEvent → Option (Option String × String)
  | toolStarted tool => some (some tool, tool ++ " started")
  | toolFinished tool output => some (some tool, output.getD (tool ++ " finished"))
  | _ => none

end StreamEvent

/-- The reasoning that events bring, in order. -/
def thoughtOf (events : List StreamEvent) : String :=
  String.join (events.map StreamEvent.thought)

/-- What the tools did, in order. -/
def toolNotesOf (events : List StreamEvent) : List (Option String × String) :=
  events.filterMap StreamEvent.toolNote?

section Events

variable (event : StreamEvent) (events more : List StreamEvent)

@[simp] theorem thoughtOf_nil : thoughtOf [] = "" := rfl

/-- One event brings its own content. -/
@[simp] theorem textOf_singleton : textOf [event] = event.text := by
  simp [textOf]

/-- One event brings its own reasoning. -/
@[simp] theorem thoughtOf_singleton : thoughtOf [event] = event.thought := by
  simp [thoughtOf]

/-- The content of events comes in their order. -/
theorem textOf_append : textOf (events ++ more) = textOf events ++ textOf more := by
  simp [textOf]

/-- The reasoning of events comes in their order. -/
theorem thoughtOf_append : thoughtOf (events ++ more) = thoughtOf events ++ thoughtOf more := by
  simp [thoughtOf]

/-- The notes on tools come in the order of the events. -/
theorem toolNotesOf_append :
    toolNotesOf (events ++ more) = toolNotesOf events ++ toolNotesOf more :=
  List.filterMap_append

/-- An event that ends its turn brings nothing. -/
theorem brings_of_terminal {event? : Option StreamEvent}
    (terminal : ∀ event ∈ event?, event.isTerminal = true) :
    textOf event?.toList = "" ∧ thoughtOf event?.toList = "" ∧ toolNotesOf event?.toList = [] := by
  match event?, terminal with
  | none, _ | some .idle, _ | some (.fault _), _ => exact ⟨rfl, rfl, rfl⟩
  | some (.content _), terminal | some (.reasoning _), terminal
  | some (.toolStarted _), terminal | some (.toolFinished ..), terminal => cases terminal _ rfl

end Events

/-- Joined texts are empty only if each of them is. -/
theorem join_eq_empty (texts : List String) :
    String.join texts = "" ↔ ∀ text ∈ texts, text = "" := by
  induction texts with
  | nil => simp
  | cons first rest ih => simp [String.join_cons, ih]

/-! ## What entries tell -/

/-- The entries of a role. -/
def entriesBy (role : Role) (entries : List Entry) : List Entry :=
  entries.filter (·.role == role)

/-- What the entries of a role tell, joined. -/
def textBy (role : Role) (entries : List Entry) : String :=
  String.join ((entriesBy role entries).map (·.content))

/-- The tool and the text of each tool entry. -/
def toolNotesIn (entries : List Entry) : List (Option String × String) :=
  (entriesBy .tool entries).map fun entry => (entry.toolName, entry.content)

section Entries

variable (role : Role) (entries more : List Entry) (now : Timestamp)

/-- The texts of a role stand in the order of the entries. -/
@[simp] theorem textBy_append :
    textBy role (entries ++ more) = textBy role entries ++ textBy role more := by
  simp [textBy, entriesBy]

/-- The notes on tools stand in the order of the entries. -/
@[simp] theorem toolNotesIn_append :
    toolNotesIn (entries ++ more) = toolNotesIn entries ++ toolNotesIn more := by
  simp [toolNotesIn, entriesBy]

variable {role entries}

@[simp] theorem textBy_nil : textBy role [] = "" := rfl

/-- What a tool did is told under no other role. -/
theorem textBy_ofTool (ne : role ≠ .tool) (tool text : String) :
    textBy role [.ofTool tool text now] = "" := by
  cases role with
  | tool => exact absurd rfl ne
  | _ => rfl

/-- A role has no entries among those of other roles. -/
theorem entriesBy_eq_nil (others : ∀ e ∈ entries, e.role ≠ role) : entriesBy role entries = [] := by
  simpa [entriesBy] using others

/-- A role without entries tells nothing. -/
theorem textBy_eq_empty (others : ∀ e ∈ entries, e.role ≠ role) : textBy role entries = "" := by
  rw [textBy, entriesBy_eq_nil others]
  rfl

/-- There are no notes on tools in entries of other roles. -/
theorem toolNotesIn_eq_nil (others : ∀ e ∈ entries, e.role ≠ .tool) : toolNotesIn entries = [] := by
  rw [toolNotesIn, entriesBy_eq_nil others]
  rfl

/-- Notices are of no other role. -/
theorem ne_of_only_system (only : ∀ e ∈ entries, e.role = .system) (other : role ≠ .system) :
    ∀ e ∈ entries, e.role ≠ role :=
  fun e mem same => other (same ▸ only e mem)

/-- Notices before and after other entries add nothing of another role. -/
theorem entriesBy_between {before after : List Entry}
    (only : ∀ e ∈ before ++ after, e.role = .system) (other : role ≠ .system) :
    entriesBy role (before ++ more ++ after) = entriesBy role more := by
  have none : entriesBy role (before ++ after) = [] :=
    entriesBy_eq_nil (ne_of_only_system only other)
  rw [entriesBy, List.filter_append, List.append_eq_nil_iff] at none
  rw [entriesBy, List.filter_append, List.filter_append, none.1, none.2, List.nil_append,
    List.append_nil, entriesBy]

/-- What is flushed for a role is an entry of that role. -/
theorem role_of_mem_flushed {text : String} :
    ∀ e ∈ Session.flushed role text now, e.role = role := by
  intro e mem
  unfold Session.flushed at mem
  split at mem
  · cases mem
  · rw [List.mem_singleton.1 mem]
    rfl

/-- The entry made of a text tells that text. -/
@[simp] theorem textBy_flushed (text : String) :
    textBy role (Session.flushed role text now) = text := by
  unfold Session.flushed
  split
  next empty => exact (String.isEmpty_iff.1 empty).symm
  next => simp [textBy, entriesBy, Entry.ofRole]

/-- The entry made of a text is of one role only. -/
theorem textBy_flushed_of_ne {other : Role} (ne : other ≠ role) (text : String) :
    textBy role (Session.flushed other text now) = "" :=
  textBy_eq_empty fun e mem same => ne (role_of_mem_flushed now e mem ▸ same)

/-- Flushing content or reasoning notes no tool. -/
theorem toolNotesIn_flushed (ne : role ≠ .tool) (text : String) :
    toolNotesIn (Session.flushed role text now) = [] :=
  toolNotesIn_eq_nil fun e mem same => ne (role_of_mem_flushed now e mem ▸ same)

end Entries

namespace Session

section Buffered

variable (s : Session) (now : Timestamp)

/-- What is buffered comes into the transcript as it is. -/
@[simp] theorem textBy_buffered :
    textBy .assistant (s.buffered now) = s.pendingContent ∧
      textBy .reasoning (s.buffered now) = s.pendingReasoning ∧
      toolNotesIn (s.buffered now) = [] := by
  refine ⟨?_, ?_, ?_⟩
  · rw [buffered_eq, textBy_append, textBy_flushed, textBy_flushed_of_ne now (by decide),
      String.empty_append]
  · rw [buffered_eq, textBy_append, textBy_flushed, textBy_flushed_of_ne now (by decide),
      String.append_empty]
  · rw [buffered_eq, toolNotesIn_append, toolNotesIn_flushed now (by decide),
      toolNotesIn_flushed now (by decide), List.append_nil]

end Buffered

/-! ## The law -/

/-- What came for a turn is in the entries that it has added and in the buffers, once; an idle
session has nothing buffered. -/
structure Streamed (events : List StreamEvent) (added : List Entry) (s : Session) : Prop where
  content : textBy .assistant added ++ s.pendingContent = textOf events
  reasoning : textBy .reasoning added ++ s.pendingReasoning = thoughtOf events
  tools : toolNotesIn added = toolNotesOf events
  idle : s.isProcessing = false → s.pendingContent = "" ∧ s.pendingReasoning = ""

/-- A turn that has just begun. -/
theorem streamed_beginTurn (s : Session) (now : Timestamp) (prompt : String) (suppressPrompt : Bool)
    (startedAt : Timestamp) : Streamed [] [] (s.beginTurn now prompt suppressPrompt startedAt) where
  content := rfl
  reasoning := rfl
  tools := rfl
  idle := fun idle => by cases idle

variable {s s' : Session} {event? : Option StreamEvent} {more : List Entry}

/-- Going on neither loses nor repeats anything: what comes into the transcript and what is left in
the buffers is what was in them and what the event brings. -/
theorem Onward.conserves (onward : s.Onward event? more s') :
    textBy .assistant more ++ s'.pendingContent = s.pendingContent ++ textOf event?.toList ∧
      textBy .reasoning more ++ s'.pendingReasoning =
        s.pendingReasoning ++ thoughtOf event?.toList ∧
      toolNotesIn more = toolNotesOf event?.toList := by
  cases onward with
  | noticed only gone =>
    rw [gone.content, gone.reasoning, textBy_eq_empty (ne_of_only_system only (by decide)),
      textBy_eq_empty (ne_of_only_system only (by decide)),
      toolNotesIn_eq_nil (ne_of_only_system only (by decide))]
    refine ⟨?_, ?_, rfl⟩ <;> simp
  | content gone =>
    rw [gone.content, gone.reasoning, textBy_flushed_of_ne _ (by decide), textBy_flushed,
      toolNotesIn_flushed _ (by decide)]
    refine ⟨?_, ?_, rfl⟩ <;> simp [StreamEvent.text, StreamEvent.thought]
  | reasoning gone =>
    rw [gone.content, gone.reasoning]
    refine ⟨?_, ?_, rfl⟩ <;> simp [StreamEvent.text, StreamEvent.thought]
  | toolStarted gone =>
    obtain ⟨assistant, reasoning, tool⟩ := s.textBy_buffered _
    rw [gone.content, gone.reasoning, textBy_append, assistant, textBy_append, reasoning,
      toolNotesIn_append, tool, textBy_ofTool _ (by decide), textBy_ofTool _ (by decide)]
    refine ⟨?_, ?_, rfl⟩ <;> simp [StreamEvent.text, StreamEvent.thought]
  | toolFinished gone =>
    rw [gone.content, gone.reasoning, textBy_ofTool _ (by decide), textBy_ofTool _ (by decide)]
    refine ⟨?_, ?_, rfl⟩ <;> simp [StreamEvent.text, StreamEvent.thought]
  | @closed _ before after now _ terminal only gone =>
    obtain ⟨noText, noThought, noNote⟩ := brings_of_terminal terminal
    obtain ⟨assistant, reasoning, tool⟩ := s.textBy_buffered now
    -- what the step itself adds are notices, before and after what was in the buffers
    have between {role : Role} (other : role ≠ .system) :
        entriesBy role (before ++ s.buffered now ++ after) = entriesBy role (s.buffered now) :=
      entriesBy_between _ only other
    rw [gone.content, gone.reasoning, noText, noThought, noNote, toolNotesIn,
      textBy, textBy, between (by decide), between (by decide), between (by decide)]
    simpa only [String.append_empty] using ⟨assistant, reasoning, tool⟩

/-- Going on keeps the law. -/
theorem Streamed.onward {events : List StreamEvent} {added : List Entry}
    (streamed : s.Streamed events added) (onward : s.Onward event? more s') :
    s'.Streamed (events ++ event?.toList) (added ++ more) := by
  obtain ⟨content, reasoning, tools⟩ := onward.conserves
  refine ⟨?_, ?_, ?_, ?_⟩
  · rw [textBy_append, String.append_assoc, content, ← String.append_assoc, streamed.content,
      textOf_append]
  · rw [textBy_append, String.append_assoc, reasoning, ← String.append_assoc, streamed.reasoning,
      thoughtOf_append]
  · rw [toolNotesIn_append, tools, streamed.tools, toolNotesOf_append]
  · exact onward.emptied streamed.idle

end Session

/-! ## Turns -/

namespace Engine

/-- Within a turn the transcript only grows. -/
theorem transcript_prefix_after {e : Engine} {name : String} {ops : List Operation}
    (stays : Operation.close name ∉ ops) (alone : tickets name e ops = []) {s : Session}
    (found : e.session? name = some s) :
    ∃ t, (e.after ops).session? name = some t ∧ s.transcript <+: t.transcript := by
  obtain ⟨t, more, found', transcript, -⟩ :=
    exists_after (P := fun _ _ _ => True) (fun _ _ => trivial) stays alone found [] [] trivial
  exact ⟨t, found', more, transcript.symm⟩

/--
Whatever is done after a turn is begun, as long as its session is not closed and no other turn is
begun for it: the transcript only grows, and what the turn has added to it, together with the
buffers, is what was streamed to it.  Once the turn is closed the buffers are empty, and the
transcript tells all of it.
-/
theorem streamed_text_kept (e : Engine) (name prompt : String) (options : BeginOptions)
    (number ticket : Nat) (startedAt now : Timestamp) (during : List Operation)
    (begun : (e.perform (.begin name prompt options number startedAt now)).answer = .ticket ticket)
    (stays : Operation.close name ∉ during)
    (alone : tickets name (e.perform (.begin name prompt options number startedAt now)).engine
      during = []) :
    let opened := (e.perform (.begin name prompt options number startedAt now)).engine
    let asked := if options.suppressPrompt then [] else [Entry.ofRole .user prompt now]
    ∃ s t added, e.session? name = some s ∧ (opened.after during).session? name = some t ∧
      t.transcript = s.transcript ++ asked ++ added ∧
      t.Streamed (eventsTaken name opened during) added ∧
      ∀ first rest, during = first ++ rest →
        ∃ m, (opened.after first).session? name = some m ∧ m.transcript <+: t.transcript := by
  intro opened asked
  have deed := perform_deed e (.begin name prompt options number startedAt now)
  rw [begun] at deed
  obtain ⟨s, before, after⟩ := deed.begun_session
  obtain ⟨t, added, found, transcript, streamed⟩ :=
    exists_after Session.Streamed.onward stays alone after [] []
      (s.streamed_beginTurn now prompt options.suppressPrompt startedAt)
  rw [Session.beginTurn_transcript] at transcript
  refine ⟨s, t, added, before, found, transcript, streamed, ?_⟩
  rintro first rest rfl
  rw [List.mem_append, not_or] at stays
  rw [tickets_append, List.append_eq_nil_iff] at alone
  -- up to the moment in question the turn grew to `m`, and from there on to `t`
  obtain ⟨m, between, -⟩ := transcript_prefix_after stays.1 alone.1 after
  obtain ⟨t', last, grown⟩ := transcript_prefix_after stays.2 alone.2 between
  rw [after_append] at found
  obtain rfl : t' = t := Option.some.inj (last.symm.trans found)
  exact ⟨m, between, grown⟩

/-- A turn that is aborted between two chunks: the second one comes too late, and the transcript
tells all that came before. -/
theorem streamed_text_kept_by_abort :
    let now : Timestamp := ⟨0, 0⟩
    let e := (empty.perform (.create (.fresh "a" "m" now))).engine
    let step := e.perform (.begin "a" "hello" ⟨false, false⟩ 1 now now)
    let during := [Operation.apply "a" 1 (.content "so") now,
      .apply "a" 1 (.toolStarted "grep") now, .apply "a" 1 (.reasoning "well") now,
      .apply "a" 1 (.content " far") now, .abort "a" now, .apply "a" 1 (.content " lost") now]
    step.answer = .ticket 1 ∧ Operation.close "a" ∉ during ∧ tickets "a" step.engine during = [] ∧
      ∃ t added, (step.engine.after during).session? "a" = some t ∧
        t.transcript = Entry.ofRole .user "hello" now :: added ∧ t.isProcessing = false ∧
        t.Streamed [.content "so", .toolStarted "grep", .reasoning "well", .content " far"]
          added := by
  intro now e step during
  have begun : step.answer = .ticket 1 := by decide
  have stays : Operation.close "a" ∉ during := by decide
  have alone : tickets "a" step.engine during = [] := by decide
  obtain ⟨s, t, added, before, found, transcript, streamed, -⟩ :=
    streamed_text_kept e "a" "hello" ⟨false, false⟩ 1 1 now now during begun stays alone
  have taken : eventsTaken "a" step.engine during =
      [.content "so", .toolStarted "grep", .reasoning "well", .content " far"] := by decide
  obtain rfl : Session.fresh "a" "m" now = s := Option.some.inj before
  have idle : ((step.engine.after during).session? "a").map (·.isProcessing) = some false := by
    decide
  rw [found] at idle
  exact ⟨begun, stays, alone, t, added, found, transcript, Option.some.inj idle, taken ▸ streamed⟩

end Engine

end Ensemble
