import Ensemble.Number.Shortest
import Ensemble.Time.Span

/-!
# Failures

Everything that an operation of this library can fail with, and the wording of each failure.

`Invalid` lists what can be wrong with a value that somebody chose: a name, a setting, a request to
a group.  `Failure` has one constructor for each kind of failure; a failure that another one led to
holds it.
-/

namespace Ensemble

/-- What can be wrong with a chosen value. -/
inductive Invalid where
  | emptyName
  | longName
  | controlInName
  | noCheckInterval
  | slowCheckInterval (interval inactivity : Nat)
  | shortToolTimeout (tool inactivity : Nat)
  | noPatrolInterval
  | noIterations
  | noStallThreshold
  | stallSimilarity (similarity : Binary64)
  | passScore (score : Binary64)
  | unknownLogLevel (text : String)
  | emptyGroup (name : String)
  | noCycle (name : String)
  | other (text : String)
  deriving DecidableEq, Repr

/-- The greatest length of a session name, in bytes. -/
def maxNameLength : Nat := 64

/-- The wording of what is wrong with a value. -/
def Invalid.message : Invalid → String
  | emptyName => "Session name cannot be empty"
  | longName => s!"Session name too long (max {maxNameLength} characters)"
  | controlInName => "Session name cannot contain control characters"
  | noCheckInterval => "watchdog check interval must be non-zero"
  | slowCheckInterval interval inactivity =>
    s!"watchdog check interval ({interval}s) must be less than inactivity timeout ({inactivity}s)"
  | shortToolTimeout tool inactivity =>
    s!"tool timeout ({tool}s) must be greater than inactivity timeout ({inactivity}s)"
  | noPatrolInterval => "watchdog interval must be non-zero"
  | noIterations => "reflection max_iterations must be at least 1"
  | noStallThreshold => "reflection stall_threshold must be at least 1"
  | stallSimilarity similarity =>
    "reflection stall_similarity (" ++ String.ofList similarity.plain ++ ") must be in (0, 1]"
  | passScore score =>
    "reflection pass_score (" ++ String.ofList score.plain ++ ") must be in [0, 1]"
  | unknownLogLevel text => "unknown log level '" ++ text ++ "'"
  | emptyGroup name => "group '" ++ name ++ "' has no members"
  | noCycle name => "group '" ++ name ++ "' has no reflection cycle"
  | other text => text

/-- What an operation can fail with. -/
inductive Failure where
  /-- A file could not be read or written. -/
  | file
  /-- A JSON document does not have the shape it should have. -/
  | jsonDocument
  /-- A TOML document does not have the shape it should have. -/
  | tomlDocument
  /-- A value has no TOML document. -/
  | tomlValue
  | noHomeDirectory
  | invalid (reason : Invalid)
  | sessionNotFound (name : String)
  | sessionExists (name : String)
  | alreadyProcessing (session : String)
  | turnCancelled (session : String)
  | turnFailed (session message : String)
  /-- An agent could not be reached. -/
  | transport (message : String)
  | groupNotFound (id : String)
  | memberNotFound (session : String)
  | noOrchestrator (group : String)
  | chainHalted (member : String) (cause : Failure)
  | hubClosed
  | timeout (limit : Span)
  | taskAborted (message : String)
  deriving DecidableEq, Repr

namespace Failure

/-- The wording of a failure. -/
def message : Failure → String
  | file => "IO error: the file could not be used"
  | jsonDocument => "JSON error: the document does not have the expected shape"
  | tomlDocument => "TOML parse error: the document does not have the expected shape"
  | tomlValue => "TOML serialize error: the value has no document"
  | noHomeDirectory => "No home directory"
  | invalid reason => "Validation error: " ++ reason.message
  | sessionNotFound name => "Session not found: " ++ name
  | sessionExists name => "Session already exists: " ++ name
  | alreadyProcessing session => "Session '" ++ session ++ "' is already processing a turn"
  | turnCancelled session => "Turn on session '" ++ session ++ "' was cancelled"
  | turnFailed session message => "Turn on session '" ++ session ++ "' failed: " ++ message
  | transport message => "Transport error: " ++ message
  | groupNotFound id => "Group not found: " ++ id
  | memberNotFound session => "Member not found: " ++ session
  | noOrchestrator group => "Group '" ++ group ++ "' has no orchestrator"
  | chainHalted member cause => "Sequential chain halted at '" ++ member ++ "': " ++ cause.message
  | hubClosed => "Session hub is no longer running"
  | timeout limit => "Operation timed out after " ++ limit.text
  | taskAborted message => "Task join error: " ++ message

/-- Whether a turn ended without a response, or never started because the session was busy. -/
def isTurnFailure : Failure → Bool
  | turnCancelled _ => true
  | turnFailed _ _ => true
  | alreadyProcessing _ => true
  | _ => false

/-- Whether another failure led to this one. -/
def hasCause : Failure → Bool
  | file => true
  | jsonDocument => true
  | tomlDocument => true
  | tomlValue => true
  | chainHalted _ _ => true
  | _ => false

end Failure

/-- The result of an operation that may fail. -/
abbrev Attempt (α : Type) := Except Failure α

end Ensemble
