import Ensemble.Proofs.Turn.Transcript

/-!
# The order in which streamed events are told

Content and reasoning wait in buffers of their own, and different events move them on.  So an event
may come into the transcript before a chunk that was there first: a chunk of reasoning passes
content that still waits, since reasoning is flushed first, and a tool that ends passes both, since
it flushes nothing (`StreamEvent.passes`).

`Engine.told_in_order_iff` says that nothing else goes wrong: the entries of a turn that is over
tell its events in the order in which they came exactly if no event passed a chunk that waited
(`InStep`).  As long as the events are in step, the entries hold them one group after the other, and
what waits are the events that are left over.  Out of step, the entries part from the events at some
character, for good, or will as soon as anything is flushed.
-/

namespace Ensemble

/-! ## Events that pass others -/

namespace StreamEvent

/-- Whether an event sees an earlier one into the transcript. -/
def movesOn (event early : StreamEvent) : Bool :=
  match event, early with
  | toolStarted _, _ => true
  | content _, reasoning _ => true
  | _, _ => false

/-- Whether an event comes into the transcript before a chunk that waits. -/
def passes (late early : StreamEvent) : Bool :=
  match late, early with
  | reasoning later, content chunk => later != "" && chunk != ""
  | toolFinished _ _, content chunk => chunk != ""
  | toolFinished _ _, reasoning chunk => chunk != ""
  | _, _ => false

/-- Whether an event leaves a trace in the transcript: a chunk does unless it is empty, and a tool
event does. -/
def leavesTrace : StreamEvent → Bool
  | content chunk | reasoning chunk => chunk != ""
  | toolStarted _ | toolFinished _ _ => true
  | idle | fault _ => false

/-- An event that ends its turn leaves no trace. -/
theorem leavesTrace_of_terminal (event : StreamEvent) (terminal : event.isTerminal = true) :
    event.leavesTrace = false := by
  cases event with
  | idle | fault => rfl
  | _ => cases terminal

end StreamEvent

/-- The events that nothing has moved on yet. -/
def waiting (events : List StreamEvent) : List StreamEvent :=
  events.foldl (fun held event => held.filter (!event.movesOn ·) ++ [event]) []

/-- Whether no event passes a chunk that waits. -/
def InStep (events : List StreamEvent) : Prop :=
  ∀ i, ∀ h : i < events.length, ∀ early ∈ waiting (events.take i), events[i].passes early = false

instance (events : List StreamEvent) : Decidable (InStep events) :=
  inferInstanceAs (Decidable (∀ i, ∀ h : i < events.length, ∀ early ∈ waiting (events.take i),
    events[i].passes early = false))

section Waiting

variable (events : List StreamEvent) (event : StreamEvent)

/-- An event moves on the events that it does not pass, and waits itself. -/
theorem waiting_concat :
    waiting (events ++ [event]) = (waiting events).filter (!event.movesOn ·) ++ [event] := by
  simp [waiting]

/-- Events are in step if they were so far and the last one passes none that waits. -/
theorem inStep_concat :
    InStep (events ++ [event]) ↔
      InStep events ∧ ∀ early ∈ waiting events, event.passes early = false := by
  constructor
  · intro inStep
    constructor
    · intro i h
      have := inStep i (by simp; omega)
      rw [List.take_append_of_le_length (by omega), List.getElem_append_left h] at this
      exact this
    · have := inStep events.length (by simp)
      simpa using this
  · rintro ⟨inStep, last⟩ i h
    -- the place is one of the earlier ones, or that of the last event
    rcases Nat.lt_or_ge i events.length with before | reached
    · rw [List.take_append_of_le_length (by omega), List.getElem_append_left before]
      exact inStep i before
    · have : i = events.length := by simp at h; omega
      subst this
      simpa using last

/-- Events bring no content exactly if none of them does. -/
theorem textOf_eq_empty : textOf events = "" ↔ ∀ event ∈ events, event.text = "" := by
  simp [textOf, join_eq_empty]

/-- Events bring no reasoning exactly if none of them does. -/
theorem thoughtOf_eq_empty : thoughtOf events = "" ↔ ∀ event ∈ events, event.thought = "" := by
  simp [thoughtOf, join_eq_empty]

variable {events}

/-- Events without content may be left out of it. -/
theorem textOf_filter {p : StreamEvent → Bool}
    (silent : ∀ event, p event = false → event.text = "") :
    textOf (events.filter p) = textOf events := by
  induction events with
  | nil => rfl
  | cons first rest ih =>
    rw [← List.singleton_append, List.filter_append, textOf_append, textOf_append, ih,
      textOf_singleton]
    cases keep : p first with
    | true => simp [keep]
    | false => simp [keep, silent first keep]

variable (events)

/-- Content moves the reasoning on that waits. -/
theorem waiting_content (chunk : String) :
    textOf (waiting (events ++ [.content chunk])) = textOf (waiting events) ++ chunk ∧
      thoughtOf (waiting (events ++ [.content chunk])) = "" := by
  rw [waiting_concat, textOf_append, textOf_singleton]
  constructor
  · rw [textOf_filter fun event moved => ?_]
    · rfl
    · cases event with
      | reasoning => rfl
      | _ => cases moved
  · rw [thoughtOf_eq_empty]
    intro event mem
    -- content moves on the reasoning that waits, so none is left to pass
    rcases List.mem_append.1 mem with kept | new
    · have stays := (List.mem_filter.1 kept).2
      cases event with
      | reasoning => cases stays
      | _ => rfl
    · rw [List.mem_singleton.1 new]
      rfl

/-- Reasoning moves nothing on. -/
theorem waiting_reasoning (chunk : String) :
    textOf (waiting (events ++ [.reasoning chunk])) = textOf (waiting events) ∧
      thoughtOf (waiting (events ++ [.reasoning chunk])) = thoughtOf (waiting events) ++ chunk := by
  simp [waiting_concat, StreamEvent.movesOn, textOf_append, thoughtOf_append, StreamEvent.text,
    StreamEvent.thought]

/-- A tool that begins moves everything on. -/
theorem waiting_toolStarted (tool : String) :
    textOf (waiting (events ++ [.toolStarted tool])) = "" ∧
      thoughtOf (waiting (events ++ [.toolStarted tool])) = "" := by
  simp [waiting_concat, StreamEvent.movesOn, StreamEvent.text, StreamEvent.thought]

/-- A tool that ends moves nothing on. -/
theorem waiting_toolFinished (tool : String) (output : Option String) :
    textOf (waiting (events ++ [.toolFinished tool output])) = textOf (waiting events) ∧
      thoughtOf (waiting (events ++ [.toolFinished tool output])) =
        thoughtOf (waiting events) := by
  simp [waiting_concat, StreamEvent.movesOn, textOf_append, thoughtOf_append, StreamEvent.text,
    StreamEvent.thought]

/-- Reasoning passes the content that waits. -/
theorem reasoning_passes (chunk : String) :
    (∀ early ∈ events, (StreamEvent.reasoning chunk).passes early = false) ↔
      chunk = "" ∨ textOf events = "" := by
  rw [textOf_eq_empty]
  by_cases empty : chunk = ""
  · simp only [empty, true_or, iff_true]
    intro early _
    cases early <;> rfl
  · simp only [empty, false_or]
    refine forall₂_congr fun early _ => ?_
    cases early <;> simp [StreamEvent.passes, StreamEvent.text, empty]

/-- A tool that ends passes whatever waits. -/
theorem toolFinished_passes (tool : String) (output : Option String) :
    (∀ early ∈ events, (StreamEvent.toolFinished tool output).passes early = false) ↔
      textOf events = "" ∧ thoughtOf events = "" := by
  rw [textOf_eq_empty, thoughtOf_eq_empty, ← forall₂_and]
  refine forall₂_congr fun early _ => ?_
  cases early <;> simp [StreamEvent.passes, StreamEvent.text, StreamEvent.thought]

end Waiting

/-- Chunks that are not empty make up an empty text only if there are none. -/
theorem eq_nil_of_join_eq_empty {chunks : List String} (solid : ∀ chunk ∈ chunks, chunk ≠ "")
    (empty : String.join chunks = "") : chunks = [] :=
  List.eq_nil_iff_forall_not_mem.2 fun chunk mem =>
    solid chunk mem ((join_eq_empty chunks).1 empty chunk mem)

/-- A text that is not empty has a first character. -/
theorem exists_toList_eq_cons {text : String} (ne : text ≠ "") :
    ∃ c rest, text.toList = c :: rest :=
  List.exists_cons_of_ne_nil fun none => ne (String.toList_eq_nil_iff.1 none)

/-! ## Entries that hold events -/

/-- Whether entries of a role tell what an agent streams. -/
def Role.isStreamed : Role → Bool
  | assistant | reasoning | tool => true
  | user | system => false

/-- What an entry holds: adjacent chunks of one kind, or a single tool event. -/
inductive Entry.Holds (entry : Entry) : List StreamEvent → Prop
  | content {chunks : List String} (role : entry.role = .assistant)
      (text : entry.content = String.join chunks) : Holds entry (chunks.map .content)
  | reasoning {chunks : List String} (role : entry.role = .reasoning)
      (text : entry.content = String.join chunks) : Holds entry (chunks.map .reasoning)
  | tool {event : StreamEvent} (role : entry.role = .tool)
      (note : event.toolNote? = some (entry.toolName, entry.content)) : Holds entry [event]

/-- The entries hold the events one group after the other; prompts and notices in between hold
none. -/
inductive Told : List Entry → List StreamEvent → Prop where
  | nil : Told [] []
  | skip {entry : Entry} {rest : List Entry} {events : List StreamEvent}
      (other : entry.role.isStreamed = false) (told : Told rest events) :
      Told (entry :: rest) events
  | cons {entry : Entry} {rest : List Entry} {group events : List StreamEvent}
      (holds : entry.Holds group) (told : Told rest events) :
      Told (entry :: rest) (group ++ events)

/-- The entries tell all that leaves a trace, in the order in which it came. -/
def TellsInOrder (entries : List Entry) (events : List StreamEvent) : Prop :=
  Told entries (events.filter StreamEvent.leavesTrace)

namespace Told

variable {entries more : List Entry} {events later : List StreamEvent}

/-- Entries that tell events can be put after entries that tell the events before. -/
theorem append (told : Told entries events) (toldMore : Told more later) :
    Told (entries ++ more) (events ++ later) := by
  induction told with
  | nil => exact toldMore
  | skip other _ ih => exact .skip other ih
  | cons holds _ ih =>
    rw [List.append_assoc]
    exact .cons holds ih

/-- One entry tells what it holds. -/
theorem of_holds {entry : Entry} (holds : entry.Holds events) : Told [entry] events :=
  List.append_nil events ▸ .cons holds .nil

/-- Notices tell nothing. -/
theorem of_notices (only : ∀ e ∈ entries, e.role = .system) : Told entries [] := by
  induction entries with
  | nil => exact .nil
  | cons first rest ih =>
    have notice : first.role.isStreamed = false := by rw [only first List.mem_cons_self]; rfl
    exact .skip notice (ih fun e mem => only e (List.mem_cons_of_mem _ mem))

/-- What is flushed tells the chunks that it was made of. -/
theorem of_flushed {role : Role} {kind : String → StreamEvent}
    (holds : ∀ {entry : Entry} {chunks : List String}, entry.role = role →
      entry.content = String.join chunks → entry.Holds (chunks.map kind))
    {chunks : List String} (solid : ∀ chunk ∈ chunks, chunk ≠ "") (now : Timestamp) :
    Told (Session.flushed role (String.join chunks) now) (chunks.map kind) := by
  unfold Session.flushed
  split
  next empty =>
    obtain rfl := eq_nil_of_join_eq_empty solid (String.isEmpty_iff.1 empty)
    exact nil
  next => exact of_holds (holds rfl rfl)

end Told

/-! ## Marks -/

/-- What tells the order apart: a character of content or of reasoning, or the note of a tool. -/
inductive Mark where
  | said (character : Char)
  | thought (character : Char)
  | used (note : Option String × String)
  deriving DecidableEq

/-- The marks of an entry. -/
def Entry.marks (entry : Entry) : List Mark :=
  match entry.role with
  | .assistant => entry.content.toList.map .said
  | .reasoning => entry.content.toList.map .thought
  | .tool => [.used (entry.toolName, entry.content)]
  | .user | .system => []

/-- The marks of an event. -/
def StreamEvent.marks : StreamEvent → List Mark
  | content chunk => chunk.toList.map .said
  | reasoning chunk => chunk.toList.map .thought
  | event => event.toolNote?.toList.map .used

/-- An entry has the marks of what it holds. -/
theorem Entry.Holds.marks_eq {entry : Entry} {events : List StreamEvent}
    (holds : entry.Holds events) : entry.marks = events.flatMap StreamEvent.marks := by
  cases holds with
  | content role text =>
    simp only [Entry.marks, role, text, String.toList_join, List.map_flatMap, List.flatMap_map]
    rfl
  | reasoning role text =>
    simp only [Entry.marks, role, text, String.toList_join, List.map_flatMap, List.flatMap_map]
    rfl
  | @tool event role note =>
    have marks : event.marks = event.toolNote?.toList.map .used := by
      cases event with
      | content | reasoning => cases note
      | _ => rfl
    simp [Entry.marks, role, marks, note]

/-- An event without a trace has no marks. -/
theorem StreamEvent.marks_eq_nil {event : StreamEvent} (traceless : event.leavesTrace = false) :
    event.marks = [] := by
  cases event with
  | content chunk | reasoning chunk =>
    have empty : chunk = "" := by simpa [leavesTrace] using traceless
    rw [empty]
    rfl
  | toolStarted | toolFinished => cases traceless
  | idle | fault => rfl

/-- Events without a trace leave no marks. -/
theorem flatMap_marks_filter (events : List StreamEvent) :
    (events.filter StreamEvent.leavesTrace).flatMap StreamEvent.marks =
      events.flatMap StreamEvent.marks := by
  induction events with
  | nil => rfl
  | cons first rest ih =>
    cases trace : first.leavesTrace with
    | true => rw [List.filter_cons_of_pos trace, List.flatMap_cons, List.flatMap_cons, ih]
    | false =>
      rw [List.filter_cons_of_neg (by simp [trace]), List.flatMap_cons, ih,
        StreamEvent.marks_eq_nil trace, List.nil_append]

/-- Entries that are not streamed leave no marks. -/
theorem Entry.marks_of_isStreamed {entry : Entry} (other : entry.role.isStreamed = false) :
    entry.marks = [] := by
  unfold Entry.marks
  cases role : entry.role with
  | user | system => rfl
  | _ => simp [role, Role.isStreamed] at other

/-- What is told has the marks of what came. -/
theorem Told.marks_eq {entries : List Entry} {events : List StreamEvent}
    (told : Told entries events) :
    entries.flatMap Entry.marks = events.flatMap StreamEvent.marks := by
  induction told with
  | nil => rfl
  | skip other _ ih => rw [List.flatMap_cons, Entry.marks_of_isStreamed other, List.nil_append, ih]
  | cons holds _ ih => rw [List.flatMap_cons, List.flatMap_append, holds.marks_eq, ih]

/-- Notices leave no marks. -/
theorem flatMap_marks_of_notices {entries : List Entry} (only : ∀ e ∈ entries, e.role = .system) :
    entries.flatMap Entry.marks = [] :=
  (Told.of_notices only).marks_eq

/-- Reasoning that is flushed begins with a thought. -/
theorem exists_flatMap_marks_flushed {text : String} (ne : text ≠ "") (now : Timestamp) :
    ∃ c rest, (Session.flushed .reasoning text now).flatMap Entry.marks = .thought c :: rest := by
  obtain ⟨c, rest, thought⟩ := exists_toList_eq_cons ne
  refine ⟨c, rest.map .thought, ?_⟩
  rw [Session.flushed, if_neg (by simpa using ne), List.flatMap_singleton, Entry.marks]
  simp only [Entry.ofRole, thought, List.map_cons]

/-- Marks that differ somewhere, whatever follows. -/
def Parted (told came : List Mark) : Prop :=
  ∃ common a b, a ≠ b ∧ common ++ [a] <+: told ∧ common ++ [b] <+: came

namespace Parted

variable {told came : List Mark}

/-- What has parted stays parted, whatever is told and comes later. -/
theorem append (parted : Parted told came) (more later : List Mark) :
    Parted (told ++ more) (came ++ later) := by
  obtain ⟨common, a, b, ne, ofTold, ofCame⟩ := parted
  exact ⟨common, a, b, ne, ofTold.trans (List.prefix_append ..),
    ofCame.trans (List.prefix_append ..)⟩

/-- Marks part where different ones come next. -/
theorem of_next {a b : Mark} (ne : a ≠ b) {more : List Mark} (next : told ++ [b] <+: came)
    (later : List Mark) : Parted (told ++ a :: more) (came ++ later) :=
  ⟨told, a, b, ne, by simp, next.trans (List.prefix_append ..)⟩

/-- What has parted is not the same. -/
theorem ne (parted : Parted told came) : told ≠ came := by
  rintro rfl
  obtain ⟨common, a, b, ne, ofTold, ofCame⟩ := parted
  have same : common ++ [a] = common ++ [b] :=
    (List.prefix_of_prefix_length_le ofTold ofCame (by simp)).eq_of_length (by simp)
  simp at same
  exact ne same

end Parted

/-! ## In step -/

/-- A chunk, unless it is empty. -/
def solid (chunk : String) : List String :=
  if chunk = "" then [] else [chunk]

/-- A chunk is what it is with nothing left out. -/
@[simp] theorem join_solid (chunk : String) : String.join (solid chunk) = chunk := by
  unfold solid
  split <;> simp_all

/-- What is kept of a chunk is not empty. -/
theorem ne_of_mem_solid {chunk text : String} (mem : text ∈ solid chunk) : text ≠ "" := by
  unfold solid at mem
  split at mem <;> simp_all

/-- An empty chunk of content leaves no trace. -/
theorem filter_content (chunk : String) :
    [StreamEvent.content chunk].filter StreamEvent.leavesTrace = (solid chunk).map .content := by
  unfold solid
  split <;> simp_all [StreamEvent.leavesTrace]

/-- An empty chunk of reasoning leaves no trace. -/
theorem filter_reasoning (chunk : String) :
    [StreamEvent.reasoning chunk].filter StreamEvent.leavesTrace =
      (solid chunk).map .reasoning := by
  unfold solid
  split <;> simp_all [StreamEvent.leavesTrace]

namespace Session

/-- The chunks that the buffers of a session are made of. -/
structure Buffers (s : Session) (thoughts contents : List String) : Prop where
  reasoning : s.pendingReasoning = String.join thoughts
  content : s.pendingContent = String.join contents
  solidThoughts : ∀ chunk ∈ thoughts, chunk ≠ ""
  solidContents : ∀ chunk ∈ contents, chunk ≠ ""

namespace Buffers

variable {s s' : Session} {thoughts contents : List String}

/-- Nothing is buffered. -/
theorem empty (reasoning : s.pendingReasoning = "") (content : s.pendingContent = "") :
    s.Buffers [] [] :=
  ⟨reasoning, content, by simp, by simp⟩

/-- What is buffered tells the chunks that it was made of. -/
theorem told (buffers : s.Buffers thoughts contents) (now : Timestamp) :
    Told (s.buffered now) (thoughts.map .reasoning ++ contents.map .content) := by
  rw [buffered_eq, buffers.reasoning, buffers.content]
  exact (Told.of_flushed .reasoning buffers.solidThoughts now).append
    (Told.of_flushed .content buffers.solidContents now)

/-- An empty buffer of reasoning holds the reasoning of no event. -/
theorem eq_nil_of_reasoning (buffers : s.Buffers thoughts contents)
    (empty : s.pendingReasoning = "") : thoughts = [] :=
  eq_nil_of_join_eq_empty buffers.solidThoughts (buffers.reasoning ▸ empty)

/-- An empty buffer of content holds the content of no event. -/
theorem eq_nil_of_content (buffers : s.Buffers thoughts contents)
    (empty : s.pendingContent = "") : contents = [] :=
  eq_nil_of_join_eq_empty buffers.solidContents (buffers.content ▸ empty)

/-- Content comes to the content that waits; the reasoning has moved on. -/
theorem add_content (buffers : s.Buffers thoughts contents) {chunk : String}
    (reasoning : s'.pendingReasoning = "")
    (content : s'.pendingContent = s.pendingContent ++ chunk) :
    s'.Buffers [] (contents ++ solid chunk) where
  reasoning := reasoning
  content := by rw [content, buffers.content, String.join_append, join_solid]
  solidThoughts := by simp
  solidContents := fun text mem =>
    (List.mem_append.1 mem).elim (buffers.solidContents text) ne_of_mem_solid

/-- Reasoning comes to the reasoning that waits. -/
theorem add_reasoning (buffers : s.Buffers thoughts contents) {chunk : String}
    (reasoning : s'.pendingReasoning = s.pendingReasoning ++ chunk)
    (content : s'.pendingContent = s.pendingContent) :
    s'.Buffers (thoughts ++ solid chunk) contents where
  reasoning := by rw [reasoning, buffers.reasoning, String.join_append, join_solid]
  content := content.trans buffers.content
  solidThoughts := fun text mem =>
    (List.mem_append.1 mem).elim (buffers.solidThoughts text) ne_of_mem_solid
  solidContents := buffers.solidContents

end Buffers

/-- While its turn goes on, a session has what waits of the events in its buffers. -/
def HoldsWaiting (events : List StreamEvent) (s : Session) : Prop :=
  s.isProcessing = true →
    s.pendingContent = textOf (waiting events) ∧ s.pendingReasoning = thoughtOf (waiting events)

variable {s s' : Session} {events : List StreamEvent} {event? : Option StreamEvent}
variable {added more : List Entry}

/-- What waits is buffered while the turn goes on. -/
theorem HoldsWaiting.onward (held : s.HoldsWaiting events) (onward : s.Onward event? more s') :
    s'.HoldsWaiting (events ++ event?.toList) := by
  intro busy
  cases onward with
  | noticed only gone same =>
    rw [gone.content, gone.reasoning, Option.toList_none, List.append_nil]
    exact held (same ▸ busy)
  | content gone atWork =>
    rw [gone.content, gone.reasoning, (held atWork).1]
    exact ⟨(waiting_content events _).1.symm, (waiting_content events _).2.symm⟩
  | reasoning gone atWork =>
    rw [gone.content, gone.reasoning, (held atWork).1, (held atWork).2]
    exact ⟨(waiting_reasoning events _).1.symm, (waiting_reasoning events _).2.symm⟩
  | toolStarted gone =>
    rw [gone.content, gone.reasoning]
    exact ⟨(waiting_toolStarted events _).1.symm, (waiting_toolStarted events _).2.symm⟩
  | toolFinished gone atWork =>
    rw [gone.content, gone.reasoning, (held atWork).1, (held atWork).2]
    exact ⟨(waiting_toolFinished events _ _).1.symm, (waiting_toolFinished events _ _).2.symm⟩
  | closed _ _ _ idle =>
    rw [idle] at busy
    cases busy

/-- The events came in step so far: the entries tell the first of them, and what is buffered is made
of the others. -/
structure TellsSoFar (events : List StreamEvent) (added : List Entry) (s : Session) : Prop where
  /-- One of the buffers is empty, so that their order does not matter. -/
  apart : s.pendingContent = "" ∨ s.pendingReasoning = ""
  told : ∃ begun thoughts contents, Told added begun ∧ s.Buffers thoughts contents ∧
    begun ++ thoughts.map .reasoning ++ contents.map .content =
      events.filter StreamEvent.leavesTrace

/-- A session that tells what came so far tells it after an event that passes none that waits. -/
theorem TellsSoFar.onward (soFar : s.TellsSoFar events added) (onward : s.Onward event? more s')
    (held : s.HoldsWaiting events)
    (quiet : ∀ event ∈ event?, ∀ early ∈ waiting events, event.passes early = false) :
    s'.TellsSoFar (events ++ event?.toList) (added ++ more) := by
  obtain ⟨apart, begun, thoughts, contents, told, buffers, all⟩ := soFar
  have trace : (events ++ event?.toList).filter StreamEvent.leavesTrace =
      begun ++ thoughts.map .reasoning ++ contents.map .content ++
        event?.toList.filter StreamEvent.leavesTrace := by
    rw [List.filter_append, ← all]
  cases onward with
  | noticed only gone =>
    refine ⟨by rwa [gone.content, gone.reasoning], begun, thoughts, contents, ?_, ?_, ?_⟩
    · simpa using told.append (.of_notices only)
    · exact ⟨gone.reasoning.trans buffers.reasoning, gone.content.trans buffers.content,
        buffers.solidThoughts, buffers.solidContents⟩
    · rw [trace]
      exact (List.append_nil _).symm
  | @content chunk now _ gone =>
    -- the thoughts that waited come into the transcript before the chunk
    have flushed := Told.of_flushed .reasoning buffers.solidThoughts now
    rw [← buffers.reasoning] at flushed
    refine ⟨.inr gone.reasoning, _, [], contents ++ solid chunk, told.append flushed, ?_, ?_⟩
    · exact buffers.add_content gone.reasoning gone.content
    · rw [trace, Option.toList_some, filter_content]
      simp
  | @reasoning chunk _ gone busy =>
    -- either the chunk is empty, or no content waits that it would pass
    have passes := (reasoning_passes _ chunk).1 (quiet _ rfl)
    rw [← (held busy).1] at passes
    refine ⟨?_, begun, thoughts ++ solid chunk, contents, by simpa using told, ?_, ?_⟩
    · rw [gone.content, gone.reasoning]
      rcases passes with rfl | none
      · simpa using apart
      · exact .inl none
    · exact buffers.add_reasoning gone.reasoning gone.content
    · rw [trace, Option.toList_some, filter_reasoning]
      rcases passes with rfl | none
      · simp [solid]
      · simp [buffers.eq_nil_of_content none]
  | @toolStarted tool now _ gone =>
    have started : Told [.ofTool tool (tool ++ " started") now] [.toolStarted tool] :=
      .of_holds (.tool rfl rfl)
    refine ⟨.inl gone.content, _, [], [], told.append ((buffers.told now).append started),
      .empty gone.reasoning gone.content, ?_⟩
    rw [trace]
    simp [List.filter_cons, StreamEvent.leavesTrace]
  | @toolFinished tool output now _ gone busy =>
    -- nothing waits that the event would pass
    have passes := (toolFinished_passes _ tool output).1 (quiet _ rfl)
    rw [← (held busy).1, ← (held busy).2] at passes
    obtain rfl := buffers.eq_nil_of_content passes.1
    obtain rfl := buffers.eq_nil_of_reasoning passes.2
    have finished : Told [.ofTool tool (output.getD (tool ++ " finished")) now]
        [.toolFinished tool output] := .of_holds (.tool rfl rfl)
    refine ⟨by rwa [gone.content, gone.reasoning], _, [], [], told.append finished,
      .empty (gone.reasoning.trans passes.2) (gone.content.trans passes.1), ?_⟩
    rw [trace]
    simp [List.filter_cons, StreamEvent.leavesTrace]
  | @closed _ before after now _ terminal only gone =>
    have toldBefore : Told before [] :=
      .of_notices fun e mem => only e (List.mem_append_left _ mem)
    have toldAfter : Told after [] := .of_notices fun e mem => only e (List.mem_append_right _ mem)
    have silent : event?.toList.filter StreamEvent.leavesTrace = [] := by
      refine List.filter_eq_nil_iff.2 fun event mem => ?_
      rw [event.leavesTrace_of_terminal (terminal event (Option.mem_toList.1 mem))]
      exact Bool.false_ne_true
    refine ⟨.inl gone.content, _, [], [],
      told.append ((toldBefore.append (buffers.told now)).append toldAfter),
      .empty gone.reasoning gone.content, ?_⟩
    rw [trace, silent]
    simp

/-- What was told in step has the marks of what came, up to what is buffered. -/
theorem TellsSoFar.marks_eq (soFar : s.TellsSoFar events added) :
    events.flatMap StreamEvent.marks =
      added.flatMap Entry.marks ++ s.pendingReasoning.toList.map .thought ++
        s.pendingContent.toList.map .said := by
  obtain ⟨-, begun, thoughts, contents, told, buffers, all⟩ := soFar
  rw [← flatMap_marks_filter, ← all, List.flatMap_append, List.flatMap_append, ← told.marks_eq,
    buffers.reasoning, buffers.content, String.toList_join, String.toList_join]
  simp only [List.flatMap_map, List.map_flatMap, StreamEvent.marks]

/-! ## Out of step -/

/-- Marks that have parted, or will as soon as the reasoning that waits is flushed before the
content that was there first. -/
def Parts (s : Session) (told came : List Mark) : Prop :=
  Parted told came ∨ s.pendingReasoning ≠ "" ∧ ∃ c, told ++ [.said c] <+: came

/-- An event that passes what waits makes the marks part. -/
theorem TellsSoFar.parts (soFar : s.TellsSoFar events added) {event : StreamEvent}
    (onward : s.Onward (some event) more s')
    (held : s.HoldsWaiting events)
    (passes : ¬ ∀ early ∈ waiting events, event.passes early = false) :
    s'.Parts ((added ++ more).flatMap Entry.marks)
      ((events ++ [event]).flatMap StreamEvent.marks) := by
  have came := soFar.marks_eq
  cases onward with
  -- content and a started tool pass nothing
  | content | toolStarted => exact absurd (fun early _ => by cases early <;> rfl) passes
  | @reasoning chunk _ gone busy =>
    rw [reasoning_passes, ← (held busy).1, not_or] at passes
    -- reasoning passes content that waits: a character of the content came first and is not told
    -- yet
    have silent : s.pendingReasoning = "" := soFar.apart.resolve_left passes.2
    obtain ⟨c, rest, said⟩ := exists_toList_eq_cons passes.2
    refine .inr ⟨by simpa [gone.reasoning, silent] using passes.1, c, ?_⟩
    rw [List.append_nil, List.flatMap_append, came, silent, said]
    simp
  | @toolFinished tool output now _ gone busy =>
    rw [toolFinished_passes, ← (held busy).1, ← (held busy).2] at passes
    rw [List.flatMap_append, List.flatMap_append, came]
    -- a finished tool is told at once, before what is in the buffers: reasoning if there is any,
    -- else content
    by_cases silent : s.pendingReasoning = ""
    · obtain ⟨c, rest, said⟩ := exists_toList_eq_cons fun none => passes ⟨none, silent⟩
      refine .inl (.of_next (b := .said c) (by simp) ?_ _)
      simp [silent, said]
    · obtain ⟨c, rest, thought⟩ := exists_toList_eq_cons silent
      refine .inl (.of_next (b := .thought c) (by simp) ?_ _)
      simp [thought]
  | closed terminal =>
    have ends := terminal event rfl
    cases event with
    | idle | fault => exact absurd (fun early _ => by cases early <;> rfl) passes
    | _ => cases ends

/-- The marks stay parted. -/
theorem Parts.onward {told came : List Mark} (parts : s.Parts told came)
    (onward : s.Onward event? more s') (later : List Mark) :
    s'.Parts (told ++ more.flatMap Entry.marks) (came ++ later) := by
  obtain parted | ⟨waits, c, next⟩ := parts
  · exact .inl (parted.append _ _)
  -- the reasoning that waits is told next, but a character of something else came next
  have goesOn := next.trans (List.prefix_append came later)
  cases onward with
  | noticed only gone =>
    rw [flatMap_marks_of_notices only, List.append_nil]
    exact .inr ⟨by rwa [gone.reasoning], c, goesOn⟩
  | @content _ now _ gone =>
    obtain ⟨c', rest, first⟩ := exists_flatMap_marks_flushed waits now
    rw [first]
    exact .inl (.of_next (by simp) next later)
  | @reasoning chunk _ gone =>
    refine .inr ⟨?_, c, by simpa using goesOn⟩
    rw [gone.reasoning]
    exact fun none => waits (String.append_eq_empty_iff.1 none).1
  | @toolStarted tool now _ gone =>
    obtain ⟨c', rest, first⟩ := exists_flatMap_marks_flushed waits now
    rw [buffered_eq, List.append_assoc, List.flatMap_append, first]
    exact .inl (.of_next (by simp) next later)
  | toolFinished gone => exact .inl (.of_next (by simp) next later)
  | @closed _ before after now _ terminal only gone =>
    obtain ⟨c', rest, first⟩ := exists_flatMap_marks_flushed waits now
    have quiet := flatMap_marks_of_notices fun e mem => only e (List.mem_append_left _ mem)
    rw [buffered_eq, List.append_assoc, List.flatMap_append, quiet, List.append_assoc,
      List.flatMap_append, first]
    exact .inl (.of_next (by simp) next later)

/-! ## Runs -/

/-- What a turn has told so far, in step or out of step. -/
structure Telling (events : List StreamEvent) (added : List Entry) (s : Session) : Prop where
  held : s.HoldsWaiting events
  idle : s.isProcessing = false → s.pendingContent = "" ∧ s.pendingReasoning = ""
  inStep : InStep events → s.TellsSoFar events added
  outOfStep : ¬ InStep events →
    s.Parts (added.flatMap Entry.marks) (events.flatMap StreamEvent.marks)

/-- A turn that has just begun. -/
theorem telling_beginTurn (s : Session) (now : Timestamp) (prompt : String) (suppressPrompt : Bool)
    (startedAt : Timestamp) : Telling [] [] (s.beginTurn now prompt suppressPrompt startedAt) where
  held := fun _ => ⟨rfl, rfl⟩
  idle := fun idle => by cases idle
  inStep := fun _ => ⟨.inl rfl, [], [], [], .nil, .empty rfl rfl, rfl⟩
  outOfStep := fun out => absurd (fun i h => absurd h (Nat.not_lt_zero i)) out

/-- What a session has to tell of its events it has to tell after each step. -/
theorem Telling.onward (telling : s.Telling events added) (onward : s.Onward event? more s') :
    s'.Telling (events ++ event?.toList) (added ++ more) := by
  have inStep_append : InStep (events ++ event?.toList) ↔
      InStep events ∧ ∀ event ∈ event?, ∀ early ∈ waiting events, event.passes early = false := by
    cases event? with
    | none => simp
    | some event => simpa using inStep_concat events event
  refine ⟨telling.held.onward onward, onward.emptied telling.idle, fun inStep => ?_, fun out => ?_⟩
  · obtain ⟨before, quiet⟩ := inStep_append.1 inStep
    exact (telling.inStep before).onward onward telling.held quiet
  · -- the events fall out of step with this one, or were out of step before
    by_cases before : InStep events
    · cases event? with
      | none => exact absurd before (by simpa using out)
      | some event =>
        have passes := fun quiet => out (inStep_append.2 ⟨before, by simpa using quiet⟩)
        exact (telling.inStep before).parts onward telling.held passes
    · rw [List.flatMap_append, List.flatMap_append]
      exact (telling.outOfStep before).onward onward _

/-- The entries of a turn that is over tell its events in order exactly if these were in step. -/
theorem Telling.tellsInOrder_iff (telling : s.Telling events added)
    (idle : s.isProcessing = false) :
    TellsInOrder added events ↔ InStep events := by
  obtain ⟨content, reasoning⟩ := telling.idle idle
  constructor
  · intro told
    -- Out of step, two marks are parted at once or wait to be; at the end nothing waits.
    by_contra out
    have parted : Parted _ _ := (telling.outOfStep out).resolve_right fun waits => waits.1 reasoning
    exact parted.ne (told.marks_eq.trans (flatMap_marks_filter events))
  · intro inStep
    obtain ⟨-, begun, thoughts, contents, told, buffers, all⟩ := telling.inStep inStep
    obtain rfl := buffers.eq_nil_of_content content
    obtain rfl := buffers.eq_nil_of_reasoning reasoning
    rw [TellsInOrder, ← all]
    simpa using told

end Session

/-! ## Turns -/

namespace Engine

/--
Whatever is done after a turn is begun, as long as its session is not closed and no other turn is
begun for it: once the turn is closed, what it has added to the transcript tells its events in the
order in which they came exactly if no event passed a chunk that waited.
-/
theorem told_in_order_iff (e : Engine) (name prompt : String) (options : BeginOptions)
    (number ticket : Nat) (startedAt now : Timestamp) (during : List Operation)
    (begun : (e.perform (.begin name prompt options number startedAt now)).answer = .ticket ticket)
    (stays : Operation.close name ∉ during)
    (alone : tickets name (e.perform (.begin name prompt options number startedAt now)).engine
      during = []) :
    let opened := (e.perform (.begin name prompt options number startedAt now)).engine
    let asked := if options.suppressPrompt then [] else [Entry.ofRole .user prompt now]
    let events := eventsTaken name opened during
    ∃ s t added, e.session? name = some s ∧ (opened.after during).session? name = some t ∧
      t.transcript = s.transcript ++ asked ++ added ∧
      (t.isProcessing = false → (TellsInOrder added events ↔ InStep events)) := by
  intro opened asked events
  have deed := perform_deed e (.begin name prompt options number startedAt now)
  rw [begun] at deed
  obtain ⟨s, before, after⟩ := deed.begun_session
  obtain ⟨t, added, found, transcript, telling⟩ :=
    exists_after Session.Telling.onward stays alone after [] []
      (s.telling_beginTurn now prompt options.suppressPrompt startedAt)
  rw [Session.beginTurn_transcript] at transcript
  exact ⟨s, t, added, before, found, transcript, telling.tellsInOrder_iff⟩

/-- Thoughts, an answer and a tool, one after the other. -/
theorem told_in_order_in_step :
    let now : Timestamp := ⟨0, 0⟩
    let e := (empty.perform (.create (.fresh "a" "m" now))).engine
    let step := e.perform (.begin "a" "hello" ⟨false, false⟩ 1 now now)
    let events := [StreamEvent.reasoning "first", .content "I ", .content "look",
      .toolStarted "grep", .toolFinished "grep" none, .content "done", .idle]
    let during := events.map fun event => Operation.apply "a" 1 event now
    step.answer = .ticket 1 ∧ Operation.close "a" ∉ during ∧ tickets "a" step.engine during = [] ∧
      ∃ t added, (step.engine.after during).session? "a" = some t ∧
        t.transcript = Entry.ofRole .user "hello" now :: added ∧ TellsInOrder added events := by
  intro now e step events during
  have begun : step.answer = .ticket 1 := by decide
  have stays : Operation.close "a" ∉ during := by decide
  have alone : tickets "a" step.engine during = [] := by decide
  obtain ⟨s, t, added, before, found, transcript, inOrder⟩ :=
    told_in_order_iff e "a" "hello" ⟨false, false⟩ 1 1 now now during begun stays alone
  have taken : eventsTaken "a" step.engine during = events := by decide
  have inStep : InStep events := by decide
  have idle : ((step.engine.after during).session? "a").map (·.isProcessing) = some false := by
    decide
  rw [found] at idle
  obtain rfl : Session.fresh "a" "m" now = s := Option.some.inj before
  refine ⟨begun, stays, alone, t, added, found, transcript, ?_⟩
  have told := inOrder (Option.some.inj idle)
  rw [taken] at told
  exact told.2 inStep

/-- Reasoning that comes after content is told before it. -/
theorem reasoning_told_before_content :
    let now : Timestamp := ⟨0, 0⟩
    let e := (empty.perform (.create (.fresh "a" "m" now))).engine
    let step := e.perform (.begin "a" "hello" ⟨false, false⟩ 1 now now)
    let events := [StreamEvent.content "a", .reasoning "r", .idle]
    let during := events.map fun event => Operation.apply "a" 1 event now
    let added := [Entry.ofRole .reasoning "r" now, .ofRole .assistant "a" now]
    step.answer = .ticket 1 ∧ eventsTaken "a" step.engine during = events ∧
      ((step.engine.after during).session? "a").map (fun t => (t.isProcessing, t.transcript)) =
        some (false, .ofRole .user "hello" now :: added) ∧
      ¬ TellsInOrder added events := by
  intro now e step events during added
  refine ⟨by decide, by decide, by decide, fun told => ?_⟩
  exact absurd told.marks_eq (by decide)

end Engine

end Ensemble
