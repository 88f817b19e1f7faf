import Ensemble.Coordination.Chain
import Ensemble.Coordination.Loop

/-!
# Runs of a group

A run takes a prompt through a group in the way its mode says: all members at once, a chain, an
orchestrated round, or a reflection loop.  Like a loop it alternates between looking at the
organization and waiting for answers.  The group and its members are looked up once, at the start.
-/

namespace Ensemble.Coordination

/-- What came of a run. -/
inductive RunReport where
  | broadcast (results : List MemberResult)
  | sequential (links : List Link)
  | orchestrated (report : RoundReport)
  | reflected (report : LoopReport)

/-- Where a run stands. -/
inductive RunStage where
  /-- It is to look up the group. -/
  | opening
  | broadcasting (lanes : List Lane)
  | chaining (chain : Chain)
  | rounding (round : Round)
  /-- It is to look for an active cycle. -/
  | joining
  /-- It is to start a cycle of its own. -/
  | replacing
  | looping (loop : Loop)
  | over (report : Attempt RunReport)

/-- A run. -/
structure Run where
  group : Id
  request : String
  settings : ReflectionSettings
  stage : RunStage

namespace Run

/-- A run at its start. -/
def start (group : Id) (request : String) (settings : ReflectionSettings) : Run :=
  ⟨group, request, settings, .opening⟩

/-- The run at another stage. -/
def moveTo (r : Run) (stage : RunStage) : Run :=
  { r with stage }

/-- The report of a run, if it is over. -/
def report? (r : Run) : Option (Attempt RunReport) :=
  match r.stage with
  | .over report => some report
  | _ => none

/-- Whether a run is at a stage at which it looks at the organization. -/
def touches (r : Run) : Bool :=
  match r.stage with
  | .opening => true
  | .joining => true
  | .replacing => true
  | .looping loop => loop.touches
  | _ => false

/-- The run after its loop has gone on. -/
def followLoop (r : Run) (loop : Loop) : Run :=
  match loop.report? with
  | some report => r.moveTo (.over (.ok (.reflected report)))
  | none => r.moveTo (.looping loop)

/-- The run after its lanes have gone on, with the prompts to send. -/
def followLanes (r : Run) (lanes : List Lane) (prompts : List LanePrompt) : Run × List Demand :=
  if lanes.all Lane.isDone then (r.moveTo (.over (.ok (.broadcast (Lane.allResults lanes)))), [])
  else (r.moveTo (.broadcasting lanes), prompts.map .prompt)

/-- The run after its chain has gone on. -/
def followChain (r : Run) : Attempt Chain → Run × List Demand
  | .error failure => (r.moveTo (.over (.error failure)), [])
  | .ok chain =>
    match chain.underWay? with
    | none => (r.moveTo (.over (.ok (.sequential chain.links))), [])
    | some prompt => (r.moveTo (.chaining chain), [.prompt prompt])

/-- The run after its round has gone on. -/
def followRound (r : Run) : RoundProgress → Run × List Demand
  | .going round prompts => (r.moveTo (.rounding round), prompts.map .prompt)
  | .over report => (r.moveTo (.over (report.map .orchestrated)), [])

/-- The run once it knows its group. -/
def enter (r : Run) (group : Group) (members : List Member) : Run × List Demand :=
  match group.mode with
  | .broadcast =>
    let lanes := members.map fun m => Lane.ofPrompts m.session [r.request]
    r.followLanes lanes (Lane.underWay lanes)
  | .sequential => r.followChain (.ok (Chain.start r.request (members.map (·.session))))
  | .orchestrator => r.followRound (Round.start group members r.request)
  | .orchestratorReflect => (r.moveTo .joining, [])

/-- A run that has looked at the organization: the run, what it waits for, the organization. -/
structure Touched where
  run : Run
  demands : List Demand
  organization : Organization

/-- Looks at the organization, and changes it in the same moment; a new cycle is called `fresh`. -/
def touch (r : Run) (o : Organization) (fresh : Id) (now : Timestamp) : Touched :=
  match r.stage with
  | .opening =>
    match o.gather r.group with
    | .error failure => ⟨r.moveTo (.over (.error failure)), [], o⟩
    | .ok (group, members) =>
      let (next, demands) := r.enter group members
      ⟨next, demands, o⟩
  | .joining =>
    match (o.cycle? r.group).filter (·.isActive) with
    | some c => ⟨r.moveTo (.looping (Loop.start r.group c.id r.settings.passScore)), [], o⟩
    | none => ⟨r.moveTo .replacing, [], o⟩
  | .replacing =>
    match o.startCycle r.settings r.group r.request none fresh now with
    | (.error failure, after) => ⟨r.moveTo (.over (.error failure)), [], after⟩
    | (.ok id, after) =>
      ⟨r.moveTo (.looping (Loop.start r.group id r.settings.passScore)), [], after⟩
  | .looping loop =>
    let touched := loop.touch o now
    ⟨r.followLoop touched.loop, touched.demands, touched.organization⟩
  | _ => ⟨r, [], o⟩

/-- Takes in an answer that the run has waited for. -/
def hear (r : Run) (heard : Heard) : Run × List Demand :=
  match r.stage, heard with
  | .broadcasting lanes, .response lane result =>
    let lanes := Lane.receiveAt lane result lanes
    r.followLanes lanes (Lane.nextAt lane lanes)
  | .chaining chain, .response _ result => r.followChain (chain.receive result)
  | .rounding round, .response lane result => r.followRound (round.receive lane result)
  | .looping loop, heard =>
    let (loop, demands) := loop.hear heard
    (r.followLoop loop, demands)
  | _, _ => (r, [])

/-- A run that is over leaves the organization alone. -/
theorem touch_of_over {r : Run} {report : Attempt RunReport} (stage : r.stage = .over report)
    (o : Organization) (fresh : Id) (now : Timestamp) : r.touch o fresh now = ⟨r, [], o⟩ := by
  simp only [touch, stage]

/-- A run that is over takes nothing in. -/
theorem hear_of_over {r : Run} {report : Attempt RunReport} (stage : r.stage = .over report)
    (heard : Heard) : r.hear heard = (r, []) := by
  simp only [hear, stage]

end Run

end Ensemble.Coordination
