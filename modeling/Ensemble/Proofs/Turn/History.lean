import Ensemble.Proofs.Turn.Deed

/-!
# Histories

A *history* is what a run of the engine has come to: the engine, the turns that were begun, and the
outcomes that were sent, both in order.  Turns are numbered as they are begun, and the waiter of a
turn goes by its number, so that outcomes can be traced to turns.
-/

namespace Ensemble.Engine

/-- A turn that was begun. -/
structure BegunTurn where
  session : String
  ticket : Nat
  /-- Tells the turn, and with it its waiter, apart from all others of the run. -/
  number : Nat
  deriving DecidableEq, Repr

/-- What a run of the engine has come to. -/
structure History where
  engine : Engine
  /-- The turns that were begun, in order. -/
  begun : List BegunTurn
  /-- The outcomes that were sent, in order. -/
  sent : List Signal

/-- The turn that an operation has begun, if it has. -/
def begunTurn? (op : Operation) (answer : Answer) : Option BegunTurn :=
  match op, answer with
  | .begin name _ _ number _ _, .ticket ticket => some ⟨name, ticket, number⟩
  | _, _ => none

theorem begunTurn?_begin (name prompt : String) (options : BeginOptions) (number ticket : Nat)
    (startedAt now : Timestamp) :
    begunTurn? (.begin name prompt options number startedAt now) (.ticket ticket) =
      some ⟨name, ticket, number⟩ := rfl

/-- An operation that has begun a turn names its session and answers its ticket. -/
theorem eq_of_begunTurn?_eq_some {op : Operation} {answer : Answer} {turn : BegunTurn}
    (h : begunTurn? op answer = some turn) :
    op.target = turn.session ∧ answer = .ticket turn.ticket := by
  cases op with
  | begin name prompt options number startedAt now =>
    cases answer with
    | ticket ticket =>
      cases h
      exact ⟨rfl, rfl⟩
    | _ => cases h
  | _ => cases h

/-- Only an operation that has begun a turn answers a ticket. -/
theorem Deed.begunTurn?_eq_some {op : Operation} {d d' : Desk} {ticket : Nat}
    {signals : List Signal} (deed : Deed op d (.ticket ticket) d' signals) :
    ∃ number, begunTurn? op (.ticket ticket) = some ⟨op.target, ticket, number⟩ := by
  cases deed with
  | begun => exact ⟨_, rfl⟩

/-- An operation that begins its turn, if it begins one, under a number. -/
def Operation.numbered (number : Nat) : Operation → Operation
  | .begin name prompt options _ startedAt now => .begin name prompt options number startedAt now
  | op => op

@[simp] theorem Operation.target_numbered (number : Nat) (op : Operation) :
    (op.numbered number).target = op.target := by
  cases op <;> rfl

/-- A turn has the number that its operation was given. -/
theorem number_of_numbered {op : Operation} {number : Nat} {answer : Answer} {turn : BegunTurn}
    (h : begunTurn? (op.numbered number) answer = some turn) : turn.number = number := by
  cases op with
  | begin name prompt options other startedAt now =>
    cases answer with
    | ticket ticket =>
      cases h
      rfl
    | _ => cases h
  | _ => cases h

/-- Operations that begin no turn have no number. -/
theorem Operation.numbered_eq {op : Operation} (h : ∀ answer, begunTurn? op answer = none)
    (number : Nat) : op.numbered number = op := by
  cases op with
  | begin name prompt options other startedAt now => cases h (.ticket 0)
  | _ => rfl

namespace History

/-- The history of a run that has not begun. -/
def start : History := ⟨.empty, [], []⟩

/-- The history after one more operation. -/
def perform (h : History) (op : Operation) : History :=
  let op := op.numbered (h.begun.length + 1)
  let s := h.engine.perform op
  ⟨s.engine, h.begun ++ (begunTurn? op s.answer).toList, h.sent ++ s.signals⟩

/-- The history after more operations. -/
def performAll (h : History) (ops : List Operation) : History :=
  ops.foldl perform h

/-- The history of a run from the empty engine. -/
def ofOperations (ops : List Operation) : History :=
  start.performAll ops

/-- What an operation does that begins no turn. -/
theorem perform_of_begins_none {op : Operation} (begins : ∀ answer, begunTurn? op answer = none)
    (h : History) :
    h.perform op =
      ⟨(h.engine.perform op).engine, h.begun, h.sent ++ (h.engine.perform op).signals⟩ := by
  unfold perform
  simp only [Operation.numbered_eq begins, begins, Option.toList_none, List.append_nil]

section Begin

variable {h : History} {name prompt : String} {options : BeginOptions} {startedAt now : Timestamp}

/-- A turn that is refused leaves no trace. -/
theorem perform_begin_of_error {failure : Failure}
    (refused : h.engine.begin name prompt options (h.begun.length + 1) startedAt now =
      ⟨.error failure, h.engine, []⟩) (number : Nat) :
    h.perform (.begin name prompt options number startedAt now) = h := by
  simp only [perform, Operation.numbered, Engine.perform, refused, Step.map, Answer.ofAttempt,
    begunTurn?, Option.toList_none, List.append_nil]

/-- A turn that is begun gets the next number. -/
theorem perform_begin_of_ok {ticket : Nat} {e : Engine} {signals : List Signal}
    (begun : h.engine.begin name prompt options (h.begun.length + 1) startedAt now =
      ⟨.ok ticket, e, signals⟩) (number : Nat) :
    h.perform (.begin name prompt options number startedAt now) =
      ⟨e, h.begun ++ [⟨name, ticket, h.begun.length + 1⟩], h.sent ++ signals⟩ := by
  simp only [perform, Operation.numbered, Engine.perform, begun, Step.map, Answer.ofAttempt,
    begunTurn?, Option.toList_some]

end Begin

@[simp] theorem performAll_nil (h : History) : h.performAll [] = h := rfl

@[simp] theorem performAll_cons (h : History) (op : Operation) (rest : List Operation) :
    h.performAll (op :: rest) = (h.perform op).performAll rest := rfl

theorem performAll_append (h : History) (ops more : List Operation) :
    h.performAll (ops ++ more) = (h.performAll ops).performAll more :=
  List.foldl_append

/-- What every operation keeps, every run keeps. -/
theorem ofOperations_induction {P : History → Prop} (start : P start)
    (step : ∀ h op, P h → P (h.perform op)) (ops : List Operation) : P (ofOperations ops) := by
  suffices all : ∀ h, P h → P (h.performAll ops) from all _ start
  induction ops with
  | nil => exact fun h hP => hP
  | cons op rest ih => exact fun h hP => ih _ (step h op hP)

/-- The turns of which no outcome was sent. -/
def unresolved (h : History) : List BegunTurn :=
  h.begun.filter fun t => !(h.sent.map (·.waiter)).contains t.number

theorem mem_unresolved {h : History} {t : BegunTurn} :
    t ∈ h.unresolved ↔ t ∈ h.begun ∧ t.number ∉ h.sent.map (·.waiter) := by
  simp [unresolved]

end History

end Ensemble.Engine
