import Ensemble.Organization.Reconcile

/-!
# Operations on an organization as data

Every way in which an organization changes, as a value, with one function that carries it out.
-/

namespace Ensemble.Organization

/-- An operation on an organization. -/
inductive Operation where
  | createGroup (id : Id) (name : String) (mode : GroupMode) (isMultiAgent : Bool)
      (now : Timestamp)
  | deleteGroup (id : Id)
  | addMember (id : Id) (session : String) (role : MemberRole)
  | removeMember (session : String)
  | promote (id : Id) (session : String)
  | setMode (id : Id) (mode : GroupMode)
  | setPersona (session : String) (persona : Option String)
  | setPreferredModel (session : String) (model : Option String)
  | setReflection (id : Id) (cycle : Option Reflection.Cycle)
  | reconcile (fresh : Nat → Id) (now : Timestamp) (placements : List Placement)
      (lookup : String → Option String)

/-- What an operation answers. -/
inductive Answer where
  | done
  | created (id : Id)
  | deleted (group : Group)
  | removed (member : Member)
  | demoted (session : Option String)
  | changes (changes : List Change)
  | refused (failure : Failure)
  deriving DecidableEq, Repr

/-- Puts an answer into the form common to all operations. -/
def Answer.ofAttempt {α : Type} (wrap : α → Answer) (answered : Attempt α × Organization) :
    Answer × Organization :=
  match answered.1 with
  | .ok value => (wrap value, answered.2)
  | .error failure => (.refused failure, answered.2)

/-- Runs an operation. -/
def perform (o : Organization) : Operation → Answer × Organization
  | .createGroup id name mode isMultiAgent now =>
    (.created id, o.createGroup id name mode isMultiAgent now)
  | .deleteGroup id => Answer.ofAttempt .deleted (o.deleteGroup id)
  | .addMember id session role => Answer.ofAttempt (fun _ => .done) (o.addMember id session role)
  | .removeMember session => Answer.ofAttempt .removed (o.removeMember session)
  | .promote id session => Answer.ofAttempt .demoted (o.promote id session)
  | .setMode id mode => Answer.ofAttempt (fun _ => .done) (o.setMode id mode)
  | .setPersona session persona => Answer.ofAttempt (fun _ => .done) (o.setPersona session persona)
  | .setPreferredModel session model =>
    Answer.ofAttempt (fun _ => .done) (o.setPreferredModel session model)
  | .setReflection id cycle => Answer.ofAttempt (fun _ => .done) (o.setReflection id cycle)
  | .reconcile fresh now placements lookup =>
    let (changes, after) := o.reconcile fresh now placements lookup
    (.changes changes, after)

end Ensemble.Organization
