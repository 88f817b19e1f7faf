import Ensemble.Organization.Basic

/-!
# The cycle of a group

Starting, steering and advancing the reflection cycle of a group.  Whoever works on a cycle holds
its identifier, and `updateCycle` changes the cycle of the group only while it has that identifier:
a cycle that replaces another is out of reach of those who work on the one it replaced.
-/

namespace Ensemble.Organization

/-- The cycle of a group. -/
def cycle? (o : Organization) (group : Id) : Option Reflection.Cycle :=
  (o.group? group).bind (·.reflection)

/-- The cycle of a group, if it has the given identifier. -/
def currentCycle? (o : Organization) (group cycle : Id) : Option Reflection.Cycle :=
  (o.cycle? group).filter (·.id == cycle)

/-- The organization with another cycle in a group. -/
def putCycle (o : Organization) (group : Id) (cycle : Reflection.Cycle) : Organization :=
  o.modifyGroup group fun g => { g with reflection := some cycle }

/-- Changes the cycle of a group if it has the given identifier; otherwise answers nothing. -/
def updateCycle {α : Type} (o : Organization) (group cycle : Id)
    (f : Reflection.Cycle → α × Reflection.Cycle) : Option α × Organization :=
  match o.currentCycle? group cycle with
  | none => (none, o)
  | some c => (some (f c).1, o.putCycle group (f c).2)

/-- Changes the cycle of a group, which must have one. -/
def steerCycle (o : Organization) (group : Id) (f : Reflection.Cycle → Reflection.Cycle) :
    Attempt Unit × Organization :=
  match o.group? group with
  | none => (.error (noGroup group), o)
  | some g =>
    match g.reflection with
    | none => (.error (.invalid (.noCycle g.name)), o)
    | some c => (.ok (), o.putCycle group (f c))

/-- Pauses the cycle of a group. -/
def pauseCycle (o : Organization) (group : Id) : Attempt Unit × Organization :=
  o.steerCycle group (·.pause)

/-- Ends the pause of the cycle of a group. -/
def resumeCycle (o : Organization) (group : Id) : Attempt Unit × Organization :=
  o.steerCycle group (·.resume)

/-- Stops the cycle of a group. -/
def stopCycle (o : Organization) (group : Id) (now : Timestamp) : Attempt Unit × Organization :=
  o.steerCycle group (·.stop now)

/-- Gives a group a new cycle, in place of the one it had, and answers its identifier. -/
def startCycle (o : Organization) (settings : ReflectionSettings) (group : Id) (goal : String)
    (evaluator : Option String) (fresh : Id) (now : Timestamp) : Attempt Id × Organization :=
  let cycle := { Reflection.Cycle.ofSettings fresh goal settings now with evaluator }
  let (answer, after) := o.setReflection group (some cycle)
  (answer.map fun _ => fresh, after)

/-- Gives the cycle of a group other criteria and answers whether it has a cycle. -/
def setRubric (o : Organization) (group : Id) (rubric : Option String) : Bool × Organization :=
  match o.cycle? group with
  | none => (false, o)
  | some c => (true, o.putCycle group { c with rubric })

/-- A group with its members, of which there must be one. -/
def gather (o : Organization) (id : Id) : Attempt (Group × List Member) :=
  match o.group? id with
  | none => .error (noGroup id)
  | some group =>
    let members := o.membersOf id
    if members.isEmpty then .error (.invalid (.emptyGroup group.name)) else .ok (group, members)

/-- A cycle with another identifier is not touched. -/
theorem updateCycle_of_ne {α : Type} {o : Organization} {group cycle : Id}
    (h : o.currentCycle? group cycle = none) (f : Reflection.Cycle → α × Reflection.Cycle) :
    o.updateCycle group cycle f = (none, o) := by
  simp [updateCycle, h]

end Ensemble.Organization
