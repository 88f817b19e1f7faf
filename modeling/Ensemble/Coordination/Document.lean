import Ensemble.Coordination.Run
import Ensemble.Failure.Document

/-!
# Reports of runs as documents

The JSON documents of what came of a run: an object whose only member is the way in which the group
worked.
-/

namespace Ensemble

/-- The name of the way in which the work on a cycle ended. -/
def Reflection.LoopOutcome.name : LoopOutcome → String
  | goalMet => "GoalMet"
  | stalled => "Stalled"
  | budgetExhausted => "BudgetExhausted"
  | stopped => "Stopped"
  | paused => "Paused"
  | superseded => "Superseded"

/-- The document of an assignment. -/
def Delegation.Assignment.toJson (a : Assignment) : Json :=
  .array [.str a.worker, .str a.task]

namespace Coordination

/-- The document of what a member answered. -/
def MemberResult.toJson (r : MemberResult) : Json :=
  .record <| [("session", .str r.session), ("ok", .bool r.result.isOk)] ++
    match r.result with
    | .ok text => [("text", .str text)]
    | .error failure => [("error", .record failure.toMembers)]

/-- The document of a link of a chain. -/
def Link.toJson (l : Link) : Json :=
  .array [.str l.session, .str l.response]

/-- The document of an orchestrated round. -/
def RoundReport.toJson (r : RoundReport) : Json :=
  .record [("plan", .str r.plan), ("assignments", .array (r.assignments.map (·.toJson))),
    ("results", .array (r.results.map (·.toJson))), ("synthesis", .str r.synthesis)]

/-- The document of a reflection loop. -/
def LoopReport.toJson (r : LoopReport) : Json :=
  .record [("cycle", .str r.cycle.text), ("outcome", .str r.outcome.name),
    ("iterations", .nat r.iterations), ("summary", .str r.summary),
    ("final_response", (r.finalResponse.map Json.str).getD .null)]

/-- The document of a report. -/
def RunReport.toJson : RunReport → Json
  | broadcast results => .record [("broadcast", .array (results.map (·.toJson)))]
  | sequential links => .record [("sequential", .array (links.map (·.toJson)))]
  | orchestrated report => .record [("orchestrated", report.toJson)]
  | reflected report => .record [("reflected", report.toJson)]

end Coordination

end Ensemble
