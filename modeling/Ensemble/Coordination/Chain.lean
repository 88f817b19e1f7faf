import Ensemble.Coordination.Lane

/-!
# Sequential chains

The members of a chain are prompted in order, the first with the request and each later one with the
request and the output of the member before.  A prompt that ends without a response halts the chain.
-/

namespace Ensemble.Coordination

/-- A chain under way. -/
structure Chain where
  request : String
  /-- What members have answered, in order. -/
  links : List Link
  /-- The members whose turn has not ended, the one under way first. -/
  waiting : List String
  deriving DecidableEq, Repr

namespace Chain

/-- A chain at its start. -/
def start (request : String) (sessions : List String) : Chain :=
  ⟨request, [], sessions⟩

/-- The prompt of the member under way. -/
def input (c : Chain) : String :=
  match c.links.getLast? with
  | some previous => chainPrompt c.request previous
  | none => c.request

/-- The member under way and its prompt. -/
def underWay? (c : Chain) : Option LanePrompt :=
  c.waiting.head?.map fun session => ⟨0, session, c.input⟩

/-- The chain after the turn of the member under way; a turn without a response halts it. -/
def receive (c : Chain) (result : Attempt String) : Attempt Chain :=
  match c.waiting, result with
  | [], _ => .ok c
  | session :: _, .error failure => .error (.chainHalted session failure)
  | session :: rest, .ok response =>
    .ok { c with links := c.links ++ [⟨session, response⟩], waiting := rest }

end Chain

end Ensemble.Coordination
