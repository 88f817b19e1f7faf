import Ensemble.Hub.Basic
import Ensemble.Turn.Document

/-!
# Events of the hub as documents

The JSON documents of what an observer of the hub is told: a list with the name of the event and
what belongs to it.  Times are in whole seconds.
-/

namespace Ensemble

/-- The name of an event in documents. -/
def HubEvent.name : HubEvent → String
  | created => "created"
  | closed => "closed"
  | started _ => "started"
  | completed _ _ => "completed"
  | aborted => "aborted"
  | queued _ => "queued"
  | stale _ => "stale"
  | recovered _ _ => "recovered"
  | noticed _ => "notice"

/-- What belongs to an event, in documents. -/
def HubEvent.details : HubEvent → List Json
  | created | closed | aborted => []
  | started ticket => [.nat ticket]
  | completed ticket outcome => [.nat ticket, outcome.toJson]
  | queued depth => [.nat depth]
  | stale ticket => [.nat ticket]
  | recovered elapsed timeout => [.nat elapsed.seconds, .nat timeout.seconds]
  | noticed text => [.str text]

/-- The document of an event. -/
def HubEvent.toJson (event : HubEvent) : Json :=
  .array (.str event.name :: event.details)

end Ensemble
