import Ensemble.Failure
import Ensemble.Json.Shape

/-!
# Failures as documents

The JSON document of a failure has the name of its kind and its wording.  What a file system or the
reader of a document reports is not worded here, so these failures have their kind alone.
-/

namespace Ensemble.Failure

/-- The name of the kind of a failure. -/
def kind : Failure → String
  | file => "Io"
  | jsonDocument => "Json"
  | tomlDocument => "TomlParse"
  | tomlValue => "TomlSerialize"
  | noHomeDirectory => "NoHomeDir"
  | invalid _ => "Validation"
  | sessionNotFound _ => "SessionNotFound"
  | sessionExists _ => "SessionExists"
  | alreadyProcessing _ => "AlreadyProcessing"
  | turnCancelled _ => "TurnCancelled"
  | turnFailed _ _ => "TurnFailed"
  | transport _ => "Transport"
  | groupNotFound _ => "GroupNotFound"
  | memberNotFound _ => "MemberNotFound"
  | noOrchestrator _ => "NoOrchestrator"
  | chainHalted _ _ => "ChainHalted"
  | hubClosed => "HubClosed"
  | timeout _ => "Timeout"
  | taskAborted _ => "TaskJoin"

/-- Whether the wording of a failure comes from outside. -/
def isWordedOutside : Failure → Bool
  | file | jsonDocument | tomlDocument | tomlValue => true
  | _ => false

/-- The document of a failure. -/
def toMembers (f : Failure) : List (String × Json) :=
  ("error", .str f.kind) :: if f.isWordedOutside then [] else [("message", .str f.message)]

end Ensemble.Failure
