import Ensemble.Number.Word
import Ensemble.Session.Name
import Ensemble.Time.Timestamp

/-!
# Sessions

A session is a named conversation with an agent: a transcript that only grows, a queue of prompts
that wait for their turn, and the state of the turn that is open, if one is.

While a turn is open, what the agent streams is held in two buffers, one for content and one for
reasoning, and moves into the transcript when the kind of stream changes, when a tool is used, and
when the turn ends.  `turnResponse` keeps all content of the turn.

The *generation* of a session counts its turns; the value a turn starts with is its ticket.  Counts
are held in words, the generation in one of 64 bits and the number of running tools in one of 32.
-/

namespace Ensemble

/-- Who produced an entry of a transcript. -/
inductive Role where
  | user
  | assistant
  | reasoning
  | tool
  /-- Notices for the operator. -/
  | system
  deriving DecidableEq, Repr

/-- An entry of a transcript. -/
structure Entry where
  role : Role
  content : String
  toolName : Option String
  timestamp : Timestamp
  deriving DecidableEq, Repr

namespace Entry

/-- An entry that no tool produced. -/
def ofRole (role : Role) (content : String) (now : Timestamp) : Entry :=
  ⟨role, content, none, now⟩

/-- An entry that a tool produced. -/
def ofTool (name content : String) (now : Timestamp) : Entry :=
  ⟨.tool, content, some name, now⟩

/-- Whether an entry is a notice. -/
def isSystem (e : Entry) : Bool :=
  e.role == .system

end Entry

/-- A conversation with an agent. -/
structure Session where
  name : String
  model : String
  transcript : List Entry
  /-- Prompts that wait for the open turn to end, the next one first. -/
  queue : List String
  isProcessing : Bool
  startedAt : Option Timestamp
  activeTools : Nat
  usedTools : Bool
  /-- Whether the open turn was open when the session was restored. -/
  isResumed : Bool
  generation : Nat
  /-- Content of the open turn that is not in the transcript yet. -/
  pendingContent : String
  /-- Reasoning of the open turn that is not in the transcript yet. -/
  pendingReasoning : String
  /-- All content of the open turn. -/
  turnResponse : String
  createdAt : Timestamp
  lastActive : Timestamp
  deriving DecidableEq, Repr

namespace Session

/-- A new session, if its name is acceptable. -/
def create (name model : String) (now : Timestamp) : Attempt Session := do
  checkName name
  return {
    name, model
    transcript := []
    queue := []
    isProcessing := false
    startedAt := none
    activeTools := 0
    usedTools := false
    isResumed := false
    generation := 0
    pendingContent := ""
    pendingReasoning := ""
    turnResponse := ""
    createdAt := now
    lastActive := now }

/-- The content of the last entry of the agent. -/
def lastResponse (s : Session) : Option String :=
  (s.transcript.reverse.find? fun e => e.role == .assistant).map (·.content)

/-! ## The transcript and the queue -/

/-- Appends an entry to the transcript. -/
def push (s : Session) (e : Entry) : Session :=
  { s with transcript := s.transcript ++ [e], lastActive := e.timestamp }

/-- Appends a notice to the transcript. -/
def notice (s : Session) (text : String) (now : Timestamp) : Session :=
  s.push (.ofRole .system text now)

/-- Appends a prompt to the queue. -/
def enqueue (s : Session) (prompt : String) : Session :=
  { s with queue := s.queue ++ [prompt] }

/-- Empties the queue. -/
def clearQueue (s : Session) : Session :=
  { s with queue := [] }

/-! ## The open turn -/

/-- The generation after the current one, which is the ticket of the next turn. -/
def nextTicket (s : Session) : Nat :=
  wrap maxWord64 (s.generation + 1)

/-- Starts the next generation. -/
def nextGeneration (s : Session) : Session :=
  { s with generation := s.nextTicket }

/-- Opens a turn. -/
def openTurn (s : Session) (startedAt now : Timestamp) : Session :=
  { s with
    isProcessing := true
    startedAt := some startedAt
    activeTools := 0
    usedTools := false
    pendingContent := ""
    pendingReasoning := ""
    turnResponse := ""
    lastActive := now }

/-- Moves buffered reasoning into the transcript. -/
def flushReasoning (s : Session) (now : Timestamp) : Session :=
  if s.pendingReasoning.isEmpty then s
  else { s.push (.ofRole .reasoning s.pendingReasoning now) with pendingReasoning := "" }

/-- Moves buffered content into the transcript. -/
def flushContent (s : Session) (now : Timestamp) : Session :=
  if s.pendingContent.isEmpty then s
  else { s.push (.ofRole .assistant s.pendingContent now) with pendingContent := "" }

/-- Moves all that is buffered into the transcript, reasoning first. -/
def flush (s : Session) (now : Timestamp) : Session :=
  (s.flushReasoning now).flushContent now

/-- Takes in a chunk of content. -/
def appendContent (s : Session) (chunk : String) (now : Timestamp) : Session :=
  let s := s.flushReasoning now
  { s with
    pendingContent := s.pendingContent ++ chunk
    turnResponse := s.turnResponse ++ chunk
    lastActive := now }

/-- Takes in a chunk of reasoning. -/
def appendReasoning (s : Session) (chunk : String) (now : Timestamp) : Session :=
  { s with pendingReasoning := s.pendingReasoning ++ chunk, lastActive := now }

/-- Notes that a tool call began. -/
def toolStarted (s : Session) (tool : String) (now : Timestamp) : Session :=
  let s := s.flush now
  { s with activeTools := wrap maxWord32 (s.activeTools + 1), usedTools := true }.push
    (.ofTool tool (tool ++ " started") now)

/-- Notes that a tool call ended. -/
def toolFinished (s : Session) (tool : String) (output : Option String) (now : Timestamp) :
    Session :=
  { s with activeTools := s.activeTools - 1 }.push
    (.ofTool tool (output.getD (tool ++ " finished")) now)

/-- Closes the turn; what is buffered stays where it is. -/
def closeTurn (s : Session) : Session :=
  { s with isProcessing := false, startedAt := none, activeTools := 0, usedTools := false }

/-- Notes whether the open turn was open when the session was restored. -/
def setResumed (s : Session) (resumed : Bool) : Session :=
  { s with isResumed := resumed }

/-- Readies a session from before a restart: a turn that was open is opened anew. -/
def resume (s : Session) (now : Timestamp) : Session :=
  if s.isProcessing then (s.nextGeneration.openTurn now now).setResumed true
  else s.setResumed false

end Session

end Ensemble
