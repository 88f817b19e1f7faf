import Ensemble.Json.Shape
import Ensemble.Session.Basic

/-!
# Sessions as documents

The JSON documents of transcript entries and of sessions.  A session without a transcript, a queue
or the state of a turn reads as one that has none; its name, its model and its two times are always
written and must be there.
-/

namespace Ensemble

/-- Reads a timestamp. -/
def Timestamp.ofJson? (value : Json) : Option Timestamp :=
  value.text?.bind fun s => Timestamp.read? s.toList

/-- The document of a timestamp. -/
def Timestamp.toJson (t : Timestamp) : Json :=
  .str t.text

namespace Role

/-- The names of the roles in documents. -/
def names : List (String × Role) :=
  [("user", .user), ("assistant", .assistant), ("reasoning", .reasoning), ("tool", .tool),
    ("system", .system)]

/-- The name of a role. -/
def name : Role → String
  | user => "user"
  | assistant => "assistant"
  | reasoning => "reasoning"
  | tool => "tool"
  | system => "system"

/-- Each role is found under its name. -/
theorem lookup_name (r : Role) : names.lookup r.name = some r := by
  cases r <;> rfl

end Role

namespace Entry

/-- The names of the fields of an entry. -/
def fieldNames : List String := ["role", "content", "tool_name", "timestamp"]

/-- Reads an entry of a transcript. -/
def ofJson? (value : Json) : Option Entry := do
  match ← value.fields? fieldNames with
  | [role, content, toolName, timestamp] =>
    return {
      role := ← Json.required? (Json.choice? Role.names) role
      content := ← Json.required? Json.text? content
      toolName := ← Json.optional? Json.text? toolName
      timestamp := ← Json.required? Timestamp.ofJson? timestamp }
  | _ => none

/-- The document of an entry. -/
def toJson (e : Entry) : Json :=
  .record <|
    [("role", .str e.role.name), ("content", .str e.content)] ++
    Json.optionalMember "tool_name" .str e.toolName ++
    [("timestamp", e.timestamp.toJson)]

end Entry

namespace Session

/-- The names of the fields of a session. -/
def fieldNames : List String :=
  ["name", "model", "transcript", "queue", "is_processing", "processing_started_at",
    "active_tool_calls", "has_used_tools_this_turn", "is_resumed", "generation",
    "pending_content", "pending_reasoning", "turn_response", "created_at", "last_active"]

/-- Reads a session. -/
def ofJson? (value : Json) : Option Session := do
  match ← value.fields? fieldNames with
  | [name, model, transcript, queue, isProcessing, startedAt, activeTools, usedTools, isResumed,
      generation, pendingContent, pendingReasoning, turnResponse, createdAt, lastActive] =>
    return {
      name := ← Json.required? Json.text? name
      model := ← Json.required? Json.text? model
      transcript := ← Json.orDefault? (Json.list? Entry.ofJson?) [] transcript
      queue := ← Json.orDefault? (Json.list? Json.text?) [] queue
      isProcessing := ← Json.orDefault? Json.bool? false isProcessing
      startedAt := ← Json.optional? Timestamp.ofJson? startedAt
      activeTools := ← Json.orDefault? (Json.natural? maxWord32) 0 activeTools
      usedTools := ← Json.orDefault? Json.bool? false usedTools
      isResumed := ← Json.orDefault? Json.bool? false isResumed
      generation := ← Json.orDefault? (Json.natural? maxWord64) 0 generation
      pendingContent := ← Json.orDefault? Json.text? "" pendingContent
      pendingReasoning := ← Json.orDefault? Json.text? "" pendingReasoning
      turnResponse := ← Json.orDefault? Json.text? "" turnResponse
      createdAt := ← Json.required? Timestamp.ofJson? createdAt
      lastActive := ← Json.required? Timestamp.ofJson? lastActive }
  | _ => none

/-- The document of a session. -/
def toJson (s : Session) : Json :=
  .record [
    ("name", .str s.name),
    ("model", .str s.model),
    ("transcript", .array (s.transcript.map Entry.toJson)),
    ("queue", .array (s.queue.map .str)),
    ("is_processing", .bool s.isProcessing),
    ("processing_started_at", (s.startedAt.map Timestamp.toJson).getD .null),
    ("active_tool_calls", .nat s.activeTools),
    ("has_used_tools_this_turn", .bool s.usedTools),
    ("is_resumed", .bool s.isResumed),
    ("generation", .nat s.generation),
    ("pending_content", .str s.pendingContent),
    ("pending_reasoning", .str s.pendingReasoning),
    ("turn_response", .str s.turnResponse),
    ("created_at", s.createdAt.toJson),
    ("last_active", s.lastActive.toJson)]

end Session

end Ensemble
