import Ensemble.Failure
import Ensemble.Registry
import Ensemble.Turn.Basic

/-!
# Agents

What agents do with the prompts they are given.  An agent answers with a stream of events, opens a
stream that is fed later, or cannot be reached.

Two kinds of agents are known here.  *Echoing* agents repeat the prompt after an opening.
*Scripted* agents take their replies from a script; a session whose script is used up gets the
fallback.  All agents of a kind are either immediate, so that their whole answer is there as soon as
they are asked, or they stream in their own time.
-/

namespace Ensemble

/-- What an agent does with a prompt. -/
inductive AgentReply where
  /-- It streams these events, and then its stream ends. -/
  | events (events : List StreamEvent)
  /-- It streams what it is fed until its stream is ended. -/
  | held
  /-- It cannot be reached. -/
  | failed (failure : Failure)
  deriving DecidableEq, Repr

namespace AgentReply

/-- An answer in one chunk. -/
def ofText (text : String) : AgentReply :=
  events [.content text, .idle]

/-- The events of an agent that answers at once; a stream that would be fed later has none. -/
def immediateEvents : AgentReply → List StreamEvent
  | .events streamed => streamed
  | .held => []
  | .failed failure => [.fault failure.message]

end AgentReply

/-- The replies that scripted agents give. -/
structure Script where
  /-- The replies of each session that are not used up, the next one first. -/
  replies : Registry (List AgentReply)
  /-- The reply of a session without replies of its own. -/
  fallback : Option AgentReply

namespace Script

/-- The reply of a session that the script says nothing about. -/
def plainReply (session : String) : AgentReply :=
  .ofText (session ++ " ok")

/-- The next reply of a session, and the script after it. -/
def next (s : Script) (session : String) : AgentReply × Script :=
  match s.replies.get? session with
  | some (reply :: rest) => (reply, { s with replies := s.replies.insert session rest })
  | _ => (s.fallback.getD (plainReply session), s)

/-- The script with one more reply of a session. -/
def append (s : Script) (session : String) (reply : AgentReply) : Script :=
  { s with
    replies := s.replies.insert session ((s.replies.get? session).getD [] ++ [reply]) }

end Script

/-- The agents of all sessions. -/
inductive Agents where
  /-- Agents that repeat each prompt after an opening. -/
  | echoing (opening : String)
  /-- Agents that reply by a script. -/
  | scripted (script : Script) (immediate : Bool)

namespace Agents

/-- What echoing agents say before the prompt unless something else is chosen. -/
def defaultOpening : String := "Echo: "

/-- The answer of an echoing agent. -/
def echo (opening prompt : String) : String :=
  opening ++ prompt

/-- Whether the whole answer of an agent is there as soon as it is asked. -/
def areImmediate : Agents → Bool
  | echoing _ => true
  | scripted _ immediate => immediate

/-- Gives the agent of a session a prompt. -/
def ask (a : Agents) (session prompt : String) : AgentReply × Agents :=
  match a with
  | echoing opening => (.ofText (echo opening prompt), a)
  | scripted script immediate =>
    let (reply, script) := script.next session
    (reply, scripted script immediate)

/-- The agents with one more reply in the script of a session. -/
def extend (a : Agents) (session : String) (reply : AgentReply) : Agents :=
  match a with
  | echoing _ => a
  | scripted script immediate => scripted (script.append session reply) immediate

end Agents

end Ensemble
