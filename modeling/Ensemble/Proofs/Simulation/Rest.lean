import Ensemble.Simulation.Outside

/-!
# Simulations at rest

A simulation that has settled is at rest: nobody is ready, and the hub has no messages.  A request
from outside wakes the hub alone.  If all that the hub does about it is to tell the observer and to
reply, the simulation is at rest again when the hub has taken its turn, and nothing but the hub has
changed (`AtRest.ask`).
-/

namespace Ensemble.Simulation

/-- Nobody in a simulation has anything left to do, and the hub is open. -/
structure AtRest (s : Simulation) : Prop where
  isOpen : s.isOpen = true
  mailbox : s.mailbox = []
  ready : s.ready = []
  readyLast : s.readyLast = []
  /-- What runs wait for was asked by callers that there have been. -/
  asked : ∀ r ∈ s.runs, ∀ p ∈ r.pending, p.caller ≤ s.numbers

/-- An effect that tells the observer something. -/
def observation (told : String × HubEvent) : HubEffect :=
  .observe told.1 told.2

/-- The simulation with nothing to do but to have the hub deal with a request from outside. -/
def requested (s : Simulation) (request : HubRequest) : Simulation :=
  { s with
    numbers := s.numbers + 1
    mailbox := [.request (s.numbers + 1) request]
    ready := [.hub] }

/-- The simulation after the hub has dealt with a request from outside by telling the observer and
replying. -/
def answered (s : Simulation) (hub : Hub) (told : List (String × HubEvent))
    (answer : Attempt HubAnswer) : Simulation :=
  { s with
    hub
    now := s.tick.now
    numbers := s.numbers + 1
    observed := s.observed ++ told
    replies := (s.numbers + 1, answer) :: s.replies }

section Effects

variable {s : Simulation}

theorem foldl_carryOut_observation (told : List (String × HubEvent)) :
    (told.map observation).foldl carryOut s = { s with observed := s.observed ++ told } := by
  induction told generalizing s with
  | nil => simp
  | cons first rest ih =>
    rw [List.map_cons, List.foldl_cons, ih]
    simp [carryOut, observation]

/-- Telling the observer and then replying to somebody whom no run waits for wakes nobody. -/
theorem foldl_carryOut_reply (told : List (String × HubEvent)) {caller : Nat}
    (answer : Attempt HubAnswer) (unawaited : ∀ r ∈ s.runs, ∀ p ∈ r.pending, p.caller ≠ caller) :
    (told.map observation ++ [HubEffect.reply caller answer]).foldl carryOut s =
      { s with observed := s.observed ++ told, replies := (caller, answer) :: s.replies } := by
  have nobody : (s.runs.filter fun r => r.pending.any (·.caller == caller)) = [] := by
    simpa using unawaited
  rw [List.foldl_append, foldl_carryOut_observation, List.foldl_cons, List.foldl_nil]
  simp only [carryOut, wakeWaiting, nobody, List.foldl_nil]

end Effects

/-- A simulation that is at rest after one turn has settled. -/
theorem settle_of_turn {s s' : Simulation} (turn : s.turn? = some s') (last : s'.turn? = none) :
    s.settle = s' := by
  show settleWithin (9999998 + 2) s = s'
  simp only [settleWithin, turn, last]

namespace AtRest

variable {s : Simulation}

/-- A simulation is at rest at its start. -/
theorem start (agents : Agents) (fresh : Nat → Id) (now : Timestamp) :
    (Simulation.start agents fresh now).AtRest :=
  ⟨rfl, rfl, rfl, rfl, fun _ mem => absurd mem List.not_mem_nil⟩

theorem withOrganization (rest : s.AtRest) (organization : Organization) :
    { s with organization }.AtRest :=
  ⟨rest.isOpen, rest.mailbox, rest.ready, rest.readyLast, rest.asked⟩

theorem withHub (rest : s.AtRest) (hub : Hub) : { s with hub }.AtRest :=
  ⟨rest.isOpen, rest.mailbox, rest.ready, rest.readyLast, rest.asked⟩

theorem turn? (rest : s.AtRest) : s.turn? = none := by
  simp only [Simulation.turn?, rest.ready, rest.readyLast]

theorem answered (rest : s.AtRest) (hub : Hub) (told : List (String × HubEvent))
    (answer : Attempt HubAnswer) : (s.answered hub told answer).AtRest :=
  ⟨rest.isOpen, rest.mailbox, rest.ready, rest.readyLast,
    fun r mem p waits => Nat.le_succ_of_le (rest.asked r mem p waits)⟩

/-- A request from outside wakes the hub. -/
theorem postRequest (rest : s.AtRest) (request : HubRequest) :
    s.postRequest request = (s.numbers + 1, s.requested request) := by
  simp [Simulation.postRequest, post, wake, line, requested, rest.isOpen, rest.mailbox, rest.ready]

variable {request : HubRequest} {hub : Hub} {told : List (String × HubEvent)}
  {answer : Attempt HubAnswer}

/-- The hub is the only one to take a turn then. -/
theorem turn?_requested (rest : s.AtRest)
    (handled : s.hub.handle (.request (s.numbers + 1) request) s.tick.now =
      (hub, told.map observation ++ [.reply (s.numbers + 1) answer])) :
    (s.requested request).turn? = some (s.answered hub told answer) := by
  obtain ⟨isOpen, mailbox, ready, readyLast, asked⟩ := rest
  have unawaited : ∀ r ∈ s.runs, ∀ p ∈ r.pending, p.caller ≠ s.numbers + 1 :=
    fun r mem p waits => Nat.ne_of_lt (Nat.lt_succ_of_le (asked r mem p waits))
  -- the turn of the hub, as it is defined: the mailbox holds this request and nothing else
  have served : (s.requested request).turn? = some
      ((s.hub.handle (.request (s.numbers + 1) request) s.tick.now).2.foldl carryOut
        { s.tick with
          hub := (s.hub.handle (.request (s.numbers + 1) request) s.tick.now).1
          numbers := s.numbers + 1
          mailbox := []
          ready := [] }) := rfl
  rw [served, handled]
  refine congrArg some ((foldl_carryOut_reply told answer ?_).trans ?_)
  · exact unawaited
  · simp [Simulation.answered, tick, mailbox, ready]

/-- What comes of a request from outside that is no more than answered. -/
theorem ask (rest : s.AtRest)
    (handled : s.hub.handle (.request (s.numbers + 1) request) s.tick.now =
      (hub, told.map observation ++ [.reply (s.numbers + 1) answer])) :
    s.ask request = (answer, s.answered hub told answer) := by
  have settled : (s.requested request).settle = s.answered hub told answer :=
    settle_of_turn (rest.turn?_requested handled) (rest.answered hub told answer).turn?
  simp only [Simulation.ask, rest.postRequest, settled]
  simp [replyTo?, Simulation.answered]

end AtRest

end Ensemble.Simulation
