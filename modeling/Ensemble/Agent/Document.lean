import Ensemble.Agent
import Ensemble.Turn.Document

/-!
# Scripts as documents

The JSON documents of the replies that scripted agents give.  A script is an object with a list of
replies for each session.
-/

namespace Ensemble

/-- Reads a reply. -/
def AgentReply.ofJson? : Json → Option AgentReply
  | .string (some "hang") => some held
  | .object [(some "text", text)] => text.text?.map ofText
  | .object [(some "events", streamed)] => (streamed.list? StreamEvent.ofJson?).map events
  | .object [(some "fail", message)] => message.text?.map fun text => failed (.transport text)
  | _ => none

/-- Reads a script; a session without replies of its own gets the fallback. -/
def Script.ofJson? (fallback : Option AgentReply) (value : Json) : Option Script :=
  match value with
  | .object members => do
    let replies ← members.mapM fun (name, replies) => do
      return (← name, ← replies.list? AgentReply.ofJson?)
    return ⟨replies.foldl (fun all (name, replies) => all.insert name replies) .empty, fallback⟩
  | _ => none

end Ensemble
