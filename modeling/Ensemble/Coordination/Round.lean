import Ensemble.Coordination.Delegation
import Ensemble.Coordination.Lane

/-!
# Orchestrated rounds

A round has up to three parts.  The orchestrator of a group plans; its plan delegates tasks to
workers, who work on them side by side, each on one task at a time; and the orchestrator combines
the results.  If the plan delegates nothing, it is the result of the round.
-/

namespace Ensemble.Coordination

/-- What came of a round. -/
structure RoundReport where
  plan : String
  assignments : List Delegation.Assignment
  results : List MemberResult
  /-- The combined result; the plan itself if nothing was delegated. -/
  synthesis : String

/-- A round under way. -/
inductive Round where
  /-- The orchestrator plans. -/
  | planning (orchestrator request : String) (workers : List Member)
  /-- The workers work. -/
  | working (orchestrator request plan : String) (assignments : List Delegation.Assignment)
      (lanes : List Lane)
  /-- The orchestrator combines. -/
  | combining (orchestrator plan : String) (assignments : List Delegation.Assignment)
      (results : List MemberResult)

/-- How a round goes on. -/
inductive RoundProgress where
  /-- The round goes on once these prompts have ended. -/
  | going (round : Round) (prompts : List LanePrompt)
  | over (report : Attempt RoundReport)

namespace Round

/-- The prompts of a round's tasks, lane by lane, in the order in which workers first appear. -/
def lanesOf (workers : List Member) (assignments : List Delegation.Assignment) : List Lane :=
  assignments.foldl (fun lanes a =>
    let persona := (workers.find? (·.session == a.worker)).bind (·.persona)
    Lane.enqueue a.worker (withPersona persona a.task) lanes) []

/-- Opens a round in a group. -/
def start (group : Group) (members : List Member) (request : String) : RoundProgress :=
  match members.find? (·.isOrchestrator) with
  | none => .over (.error (.noOrchestrator group.name))
  | some orchestrator =>
    let workers := members.filter fun m => !m.isOrchestrator
    .going (.planning orchestrator.session request workers)
      [⟨0, orchestrator.session, planningPrompt group.orchestratorPrompt request workers⟩]

/-- The round after the orchestrator has planned. -/
def delegate (orchestrator request : String) (workers : List Member) (plan : String) :
    RoundProgress :=
  let assignments := Delegation.assignments plan (workers.map (·.session))
  if assignments.isEmpty then .over (.ok ⟨plan, [], [], plan⟩)
  else
    let lanes := lanesOf workers assignments
    .going (.working orchestrator request plan assignments lanes) (Lane.underWay lanes)

/-- The round after the lane at a place has received a result. -/
def collect (orchestrator request plan : String) (assignments : List Delegation.Assignment)
    (lanes : List Lane) (place : Nat) (result : Attempt String) : RoundProgress :=
  let lanes := Lane.receiveAt place result lanes
  if lanes.all Lane.isDone then
    let results := Lane.allResults lanes
    .going (.combining orchestrator plan assignments results)
      [⟨0, orchestrator, combiningPrompt request results⟩]
  else .going (.working orchestrator request plan assignments lanes) (Lane.nextAt place lanes)

/-- The round after a prompt of the lane at a place has ended. -/
def receive (r : Round) (place : Nat) (result : Attempt String) : RoundProgress :=
  match r, result with
  | .planning orchestrator request workers, .ok plan => delegate orchestrator request workers plan
  | .planning _ _ _, .error failure => .over (.error failure)
  | .working orchestrator request plan assignments lanes, result =>
    collect orchestrator request plan assignments lanes place result
  | .combining _ plan assignments results, .ok synthesis =>
    .over (.ok ⟨plan, assignments, results, synthesis⟩)
  | .combining _ _ _ _, .error failure => .over (.error failure)

end Round

end Ensemble.Coordination
