import Ensemble.Coordination.Prompt

/-!
# Prompts to several sessions at once

A lane holds the prompts for one session.  They are sent one after another, each when the one before
has ended, whatever came of it.  Several lanes go on side by side, and the results are read off lane
by lane, in the order of the lanes.
-/

namespace Ensemble.Coordination

/-- Prompts for one session, sent one after another. -/
structure Lane where
  session : String
  /-- What came of the prompts that have ended. -/
  results : List (Attempt String)
  /-- The prompts that have not ended, the one under way first. -/
  prompts : List String

/-- A prompt that is to be sent for a lane. -/
structure LanePrompt where
  lane : Nat
  session : String
  prompt : String
  deriving DecidableEq, Repr

namespace Lane

/-- A lane with all its prompts ahead. -/
def ofPrompts (session : String) (prompts : List String) : Lane :=
  ⟨session, [], prompts⟩

/-- Notes what came of the prompt under way. -/
def receive (l : Lane) (result : Attempt String) : Lane :=
  { l with results := l.results ++ [result], prompts := l.prompts.tail }

/-- Whether all prompts of a lane have ended. -/
def isDone (l : Lane) : Bool :=
  l.prompts.isEmpty

/-- The results of a lane. -/
def memberResults (l : Lane) : List MemberResult :=
  l.results.map fun result => ⟨l.session, result⟩

/-- The prompt under way in the lane at a place. -/
def underWay? (place : Nat) (l : Lane) : Option LanePrompt :=
  l.prompts.head?.map fun prompt => ⟨place, l.session, prompt⟩

/-- The prompts under way in lanes of which the first is at a place. -/
def underWayFrom : Nat → List Lane → List LanePrompt
  | _, [] => []
  | place, l :: rest => (l.underWay? place).toList ++ underWayFrom (place + 1) rest

/-- The prompts under way in some lanes. -/
def underWay (lanes : List Lane) : List LanePrompt :=
  underWayFrom 0 lanes

/-- Notes in the lane at a place what came of its prompt. -/
def receiveAt : Nat → Attempt String → List Lane → List Lane
  | _, _, [] => []
  | 0, result, l :: rest => l.receive result :: rest
  | place + 1, result, l :: rest => l :: receiveAt place result rest

/-- The prompt that is to be sent after the lane at a place has received a result. -/
def nextAt (place : Nat) (lanes : List Lane) : List LanePrompt :=
  match lanes[place]? with
  | some l => (l.underWay? place).toList
  | none => []

/-- The results of some lanes. -/
def allResults (lanes : List Lane) : List MemberResult :=
  lanes.flatMap memberResults

/-- Puts a prompt at the end of the lane of its session, which is opened if there is none. -/
def enqueue (session prompt : String) : List Lane → List Lane
  | [] => [ofPrompts session [prompt]]
  | l :: rest =>
    if l.session == session then { l with prompts := l.prompts ++ [prompt] } :: rest
    else l :: enqueue session prompt rest

end Lane

end Ensemble.Coordination
