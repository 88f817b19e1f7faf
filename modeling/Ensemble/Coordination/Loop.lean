import Ensemble.Coordination.Round
import Ensemble.Organization.Steering
import Ensemble.Reflection.Iteration

/-!
# Reflection loops

A loop works on the cycle of a group until the cycle is over: it begins an iteration, has a round
worked on in the group, concludes the iteration with the result, and starts again.  If an evaluator
is attached to the cycle, its verdict on the result decides.  An iteration that fails is given back.

A loop is a series of stages.  At some it looks at the organization, and changes it in the same
moment (`Loop.touch`); at others it waits for an answer (`Loop.hear`).  Between two stages anything
may happen to the organization.  The loop holds on to the identifier of its cycle, and when it finds
that the group has another cycle, or none, it reports that its cycle was superseded.
-/

namespace Ensemble.Coordination

open Ensemble.Reflection (Cycle Decision Evaluation LoopOutcome)

/-- What came of a loop. -/
structure LoopReport where
  cycle : Id
  outcome : LoopOutcome
  iterations : Nat
  summary : String
  /-- The response of the last iteration that was concluded. -/
  finalResponse : Option String
  deriving DecidableEq, Repr

/-- What coordinated work waits for. -/
inductive Demand where
  /-- The end of the turn that a prompt opens. -/
  | prompt (prompt : LanePrompt)
  /-- The model of a session. -/
  | model (session : String)
  /-- That a notice is posted. -/
  | notice (session text : String)
  deriving DecidableEq, Repr

/-- An answer that coordinated work has waited for. -/
inductive Heard where
  | response (lane : Nat) (result : Attempt String)
  | model (result : Attempt String)
  | posted

/-- Where a loop stands. -/
inductive LoopStage where
  /-- It is to begin an iteration. -/
  | beginning
  /-- It is to look who belongs to the group. -/
  | gathering (prompt : String) (evaluator : Option String)
  /-- A round is worked on. -/
  | working (round : Round) (evaluator : Option String)
  /-- It is to conclude the iteration with a response. -/
  | concluding (response : String)
  /-- It is to ask an evaluator for its verdict on a response. -/
  | framing (response evaluator : String)
  /-- The evaluator judges. -/
  | judging (response evaluator : String)
  /-- The evaluator has judged, and is asked for its model. -/
  | consulting (response : String) (evaluation : Evaluation)
  /-- It is to conclude the iteration with a verdict. -/
  | scoring (response : String) (evaluation : Evaluation) (model : String)
  /-- It is to give back an iteration that failed. -/
  | retrying
  /-- It is to report; a cycle that ended is also made known to the orchestrator. -/
  | reporting (outcome : LoopOutcome) (posts : Bool)
  /-- It is to look who is to be told. -/
  | addressing (report : LoopReport)
  /-- The orchestrator is being told. -/
  | posting (report : LoopReport)
  | over (report : LoopReport)

/-- A loop that works on a cycle. -/
structure Loop where
  group : Id
  /-- The identifier of the cycle. -/
  cycle : Id
  passScore : Binary64
  /-- The response of the last iteration that was concluded. -/
  finalResponse : Option String
  stage : LoopStage

namespace Loop

/-- A loop at its start. -/
def start (group cycle : Id) (passScore : Binary64) : Loop :=
  ⟨group, cycle, passScore, none, .beginning⟩

/-- The loop at another stage. -/
def moveTo (l : Loop) (stage : LoopStage) : Loop :=
  { l with stage }

/-- The loop with an iteration to give back. -/
def failed (l : Loop) : Loop × List Demand :=
  (l.moveTo .retrying, [])

/-- The loop after its iteration has ended; without a decision its cycle was superseded. -/
def decided (l : Loop) : Option Decision → Loop
  | none => l.moveTo (.reporting .superseded false)
  | some decision =>
    if decision.isTerminal then l.moveTo (.reporting (.ofDecision decision) true)
    else l.moveTo .beginning

/-- The loop after its iteration has been concluded with a response. -/
def concluded (l : Loop) (response : String) : Option Decision → Loop
  | none => l.decided none
  | some decision => { l with finalResponse := some response }.decided (some decision)

/-- The loop with the result of its round. -/
def settleRound (l : Loop) (evaluator : Option String) (response : String) : Loop :=
  match evaluator with
  | none => l.moveTo (.concluding response)
  | some evaluator => l.moveTo (.framing response evaluator)

/-- The loop after its round has gone on. -/
def followRound (l : Loop) (evaluator : Option String) : RoundProgress → Loop × List Demand
  | .going round prompts => (l.moveTo (.working round evaluator), prompts.map .prompt)
  | .over (.ok report) => (l.settleRound evaluator report.synthesis, [])
  | .over (.error _) => l.failed

/-- The summary of a cycle that the group no longer has. -/
def replacedSummary : String :=
  "Reflection cycle was replaced before it finished."

/-- The report of a loop. -/
def report (l : Loop) (o : Organization) (outcome : LoopOutcome) (now : Timestamp) : LoopReport :=
  match o.currentCycle? l.group l.cycle with
  | some c => ⟨l.cycle, outcome, c.currentIteration, c.summary now, l.finalResponse⟩
  | none => ⟨l.cycle, outcome, 0, replacedSummary, l.finalResponse⟩

/-- Whether a loop is at a stage at which it looks at the organization. -/
def touches (l : Loop) : Bool :=
  match l.stage with
  | .beginning => true
  | .gathering _ _ => true
  | .concluding _ => true
  | .framing _ _ => true
  | .scoring _ _ _ => true
  | .retrying => true
  | .reporting _ _ => true
  | .addressing _ => true
  | _ => false

/-- A loop that has looked at the organization: the loop, what it waits for, the organization. -/
structure Touched where
  loop : Loop
  demands : List Demand
  organization : Organization

/-- Looks at the organization, and changes the cycle in the same moment. -/
def touch (l : Loop) (o : Organization) (now : Timestamp) : Touched :=
  match l.stage with
  | .beginning =>
    match o.updateCycle l.group l.cycle Cycle.takeIteration with
    | (none, after) => ⟨l.moveTo (.reporting .superseded false), [], after⟩
    | (some (.error outcome), after) => ⟨l.moveTo (.reporting outcome false), [], after⟩
    | (some (.ok iteration), after) =>
      ⟨l.moveTo (.gathering iteration.prompt iteration.evaluator), [], after⟩
  | .gathering prompt evaluator =>
    let (next, demands) :=
      match o.gather l.group with
      | .error _ => l.failed
      | .ok (group, members) => l.followRound evaluator (Round.start group members prompt)
    ⟨next, demands, o⟩
  | .concluding response =>
    let (decision, after) := o.updateCycle l.group l.cycle fun c => c.conclude response now
    ⟨l.concluded response decision, [], after⟩
  | .framing response evaluator =>
    match o.updateCycle l.group l.cycle fun c => (c.evaluatorPrompt response, c) with
    | (none, after) => ⟨l.decided none, [], after⟩
    | (some prompt, after) =>
      ⟨l.moveTo (.judging response evaluator), [.prompt ⟨0, evaluator, prompt⟩], after⟩
  | .scoring response evaluation model =>
    let (decision, after) := o.updateCycle l.group l.cycle fun c =>
      c.concludeWith response evaluation (some model) now
    ⟨l.concluded response decision, [], after⟩
  | .retrying =>
    let (decision, after) := o.updateCycle l.group l.cycle fun c => c.retry now
    ⟨l.decided decision, [], after⟩
  | .reporting outcome posts =>
    let report := l.report o outcome now
    ⟨l.moveTo (if posts then .addressing report else .over report), [], o⟩
  | .addressing report =>
    match o.orchestratorOf? l.group with
    | none => ⟨l.moveTo (.over report), [], o⟩
    | some m => ⟨l.moveTo (.posting report), [.notice m.session report.summary], o⟩
  | _ => ⟨l, [], o⟩

/-- Takes in an answer that the loop has waited for. -/
def hear (l : Loop) (heard : Heard) : Loop × List Demand :=
  match l.stage, heard with
  | .working round evaluator, .response lane result =>
    l.followRound evaluator (round.receive lane result)
  | .judging response evaluator, .response _ (.ok verdict) =>
    (l.moveTo (.consulting response (Reflection.readVerdict verdict l.passScore)),
      [.model evaluator])
  | .judging _ _, .response _ (.error _) => l.failed
  | .consulting response evaluation, .model (.ok model) =>
    (l.moveTo (.scoring response evaluation model), [])
  | .consulting _ _, .model (.error _) => l.failed
  | .posting report, .posted => (l.moveTo (.over report), [])
  | _, _ => (l, [])

/-- What came of a loop that is over. -/
def report? (l : Loop) : Option LoopReport :=
  match l.stage with
  | .over report => some report
  | _ => none

end Loop

end Ensemble.Coordination
