import Ensemble.Settings
import Ensemble.Turn.Engine

/-!
# The watchdog

The watchdog looks for turns whose agent has gone silent.  A turn is stuck when it has been open for
longer than its timeout.  The timeout is the inactivity timeout, unless something suggests that the
agent is busy for good reason: a tool is running or has run, the turn was open when the session was
restored, or the session works in a multi-agent group.  Then it is the tool timeout.
-/

namespace Ensemble

/-- A turn that has been open for longer than its timeout. -/
structure StuckTurn where
  session : String
  elapsed : Span
  timeout : Span
  deriving DecidableEq, Repr

namespace StuckTurn

/-- The notice that a stuck turn leaves in the transcript. -/
def notice (t : StuckTurn) : String :=
  s!"No response from the agent for {t.elapsed.seconds}s (limit {t.timeout.seconds}s). " ++
    "The turn was stopped; send a new message to continue."

end StuckTurn

namespace Watchdog

/-- Whether the open turn of a session gets the tool timeout. -/
def usesToolTimeout (s : Session) (isMultiAgent : Bool) : Bool :=
  0 < s.activeTools || s.isResumed || s.usedTools || isMultiAgent

/-- The timeout of the open turn of a session. -/
def timeout (settings : WatchdogSettings) (s : Session) (isMultiAgent : Bool) : Span :=
  if usesToolTimeout s isMultiAgent then .ofSeconds settings.toolTimeout
  else .ofSeconds settings.inactivityTimeout

/-- How long the open turn of a session has been open. -/
def elapsed? (s : Session) (now : Timestamp) : Option Span :=
  s.startedAt.map fun startedAt => now.elapsed startedAt

/-- The open turn of a session, if it is stuck. -/
def stuckTurn? (settings : WatchdogSettings) (now : Timestamp) (multiAgent : List String)
    (s : Session) : Option StuckTurn := do
  guard s.isProcessing
  let elapsed ← elapsed? s now
  let limit := timeout settings s (multiAgent.contains s.name)
  guard (limit.nanos < elapsed.nanos)
  return ⟨s.name, elapsed, limit⟩

/-- The stuck turns of some sessions, in the order of the sessions' names. -/
def findStuck (settings : WatchdogSettings) (now : Timestamp) (multiAgent : List String)
    (sessions : List Session) : List StuckTurn :=
  (sessions.filterMap (stuckTurn? settings now multiAgent)).mergeSort fun a b =>
    a.session ≤ b.session

/-- Whether the watchdog can look regularly at an interval. -/
def checkPatrol (settings : WatchdogSettings) (interval : Span) : Attempt Unit := do
  settings.check
  if interval.nanos == 0 then .error (.invalid .noPatrolInterval)

/-- The interval at which the watchdog looks unless another is chosen. -/
def interval (settings : WatchdogSettings) : Span :=
  .ofSeconds settings.checkInterval

end Watchdog

end Ensemble
