import Ensemble.Json.Shape
import Ensemble.Turn.Basic

/-!
# Events and outcomes as documents

The JSON documents of what agents stream and of how turns end.  An alternative without a content is
written as its name; the others are objects, of which the first member names the alternative.

`Outcome.ofJson?_toJson` says that an outcome is read back from its document.
-/

namespace Ensemble

/-- Reads an event. -/
def StreamEvent.ofJson? (value : Json) : Option StreamEvent :=
  match value with
  | .string (some "idle") => some .idle
  | .object ((some "content", chunk) :: _) => chunk.text?.map content
  | .object ((some "reasoning", chunk) :: _) => chunk.text?.map reasoning
  | .object ((some "tool_start", tool) :: _) => tool.text?.map toolStarted
  | .object ((some "error", message) :: _) => message.text?.map fault
  | .object members => do
    let tool ← (Json.object members).member? "tool_end" >>= Json.text?
    let output ← Json.optional? Json.text? ((Json.object members).member? "output")
    return toolFinished tool output
  | _ => none

namespace Outcome

/-- Reads an outcome. -/
def ofJson? : Json → Option Outcome
  | .string (some "cancelled") => some cancelled
  | .object [(some "completed", response)] => response.text?.map completed
  | .object [(some "failed", message)] => message.text?.map failed
  | _ => none

/-- The document of an outcome. -/
def toJson : Outcome → Json
  | completed response => .record [("completed", .str response)]
  | failed message => .record [("failed", .str message)]
  | cancelled => .str "cancelled"

/-- An outcome is read back from its document. -/
@[simp] theorem ofJson?_toJson (outcome : Outcome) : ofJson? outcome.toJson = some outcome := by
  cases outcome <;> rfl

end Outcome

end Ensemble
