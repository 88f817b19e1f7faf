import Ensemble.Proofs.Session.Frame

/-!
# Desks

The *desk* of a name is what an engine holds under that name: the session, and who waits for its
open turn.  An engine is the family of its desks (`Engine.ext_desk`), and what the operations do to
an engine is a change at one desk, `Engine.withDesk`.
-/

namespace Ensemble

namespace Registry

variable {α : Type}

/-- Gives a name a value, or takes it out. -/
def set (r : Registry α) (name : String) : Option α → Registry α
  | some value => r.insert name value
  | none => r.erase name

/-- Setting the value of a name changes the value of that name only. -/
@[simp] theorem get?_set (r : Registry α) (name other : String) (value : Option α) :
    (r.set name value).get? other = if other = name then value else r.get? other := by
  cases value with
  | none => exact r.get?_erase name other
  | some value => exact r.get?_insert name other value

end Registry

/-- What the engine holds under one name: the session, and who waits for its open turn. -/
structure Desk where
  session : Option Session
  waiter : Option Waiter

namespace Desk

/-- No turn with the ticket is open: there is no session, or it is idle, or its generation is
another one. -/
def Stale (d : Desk) (ticket : Nat) : Prop :=
  ∀ s, d.session = some s → s.isProcessing = true → s.generation ≠ ticket

instance (d : Desk) (ticket : Nat) : Decidable (d.Stale ticket) :=
  match h : d.session with
  | none => .isTrue fun s found => by rw [h] at found; cases found
  | some s =>
    if busy : s.isProcessing = true ∧ s.generation = ticket then
      .isFalse fun stale => stale s h busy.1 busy.2
    else
      .isTrue fun s' found busy' same => by
        obtain rfl : s = s' := Option.some.inj (h.symm.trans found)
        exact busy ⟨busy', same⟩

/-- A ticket that is not stale is the ticket of the turn that is open. -/
theorem not_stale_iff {d : Desk} {ticket : Nat} :
    ¬ d.Stale ticket ↔
      ∃ s, d.session = some s ∧ s.isProcessing = true ∧ s.generation = ticket := by
  unfold Stale
  constructor
  · intro h
    apply Classical.byContradiction
    intro none
    exact h fun s found busy same => none ⟨s, found, busy, same⟩
  · rintro ⟨s, found, busy, same⟩ h
    exact h s found busy same

/-- A session that is in the generation of a stale ticket is idle. -/
theorem Stale.idle {d : Desk} {ticket : Nat} (stale : d.Stale ticket) {s : Session}
    (found : d.session = some s) (same : s.generation = ticket) : s.isProcessing = false := by
  cases busy : s.isProcessing with
  | false => rfl
  | true => exact absurd same (stale s found busy)

end Desk

namespace Engine

/-- The desk of a name. -/
def desk (e : Engine) (name : String) : Desk :=
  ⟨e.session? name, e.waiters.get? name⟩

@[simp] theorem desk_session (e : Engine) (name : String) :
    (e.desk name).session = e.session? name := rfl

@[simp] theorem desk_waiter (e : Engine) (name : String) :
    (e.desk name).waiter = e.waiters.get? name := rfl

/-! ## Engines and their desks -/

/-- The engine with a desk changed. -/
def withDesk (e : Engine) (name : String) (d : Desk) : Engine :=
  ⟨e.sessions.set name d.session, e.waiters.set name d.waiter⟩

/-- Changing one desk leaves the others. -/
@[simp] theorem desk_withDesk (e : Engine) (name other : String) (d : Desk) :
    (e.withDesk name d).desk other = if other = name then d else e.desk other := by
  simp only [desk, session?, withDesk, Registry.get?_set]
  split <;> rfl

/-- Changing one desk changes the session there only. -/
@[simp] theorem session?_withDesk (e : Engine) (name other : String) (d : Desk) :
    (e.withDesk name d).session? other = if other = name then d.session else e.session? other :=
  e.sessions.get?_set name other d.session

/-- Changing one desk changes who waits there only. -/
@[simp] theorem waiter_withDesk (e : Engine) (name other : String) (d : Desk) :
    (e.withDesk name d).waiters.get? other =
      if other = name then d.waiter else e.waiters.get? other :=
  e.waiters.get?_set name other d.waiter

/-- Two engines with the same desks are equal. -/
theorem ext_desk {e f : Engine} (h : ∀ name, e.desk name = f.desk name) : e = f := by
  have sessions : e.sessions = f.sessions :=
    Registry.ext_get? fun name => congrArg Desk.session (h name)
  have waiters : e.waiters = f.waiters :=
    Registry.ext_get? fun name => congrArg Desk.waiter (h name)
  obtain ⟨_, _⟩ := e
  obtain ⟨_, _⟩ := f
  simp_all

variable {e : Engine} {name : String}

/-- Nothing changes if a desk is replaced by itself. -/
theorem withDesk_desk : e.withDesk name (e.desk name) = e := by
  refine ext_desk fun other => ?_
  rw [desk_withDesk]
  split
  next h => rw [h]
  next => rfl

/-- Of two changes at one desk, the later one counts. -/
theorem withDesk_withDesk (d d' : Desk) :
    (e.withDesk name d).withDesk name d' = e.withDesk name d' := by
  refine ext_desk fun other => ?_
  simp only [desk_withDesk]
  split <;> rfl

/-- Storing a session changes the session at its desk. -/
theorem put_eq_withDesk (s : Session) :
    e.put name s = e.withDesk name ⟨some s, e.waiters.get? name⟩ := by
  refine ext_desk fun other => ?_
  rw [desk_withDesk]
  by_cases h : other = name <;> simp [desk, session?, put, h]

/-- Dropping a waiter changes the waiter at its desk. -/
theorem dropWaiter_eq_withDesk : e.dropWaiter name = e.withDesk name ⟨e.session? name, none⟩ := by
  refine ext_desk fun other => ?_
  rw [desk_withDesk]
  by_cases h : other = name <;> simp [desk, session?, dropWaiter, h]

/-- Storing a session and dropping its waiter change one desk. -/
theorem put_dropWaiter (s : Session) :
    (e.put name s).dropWaiter name = e.withDesk name ⟨some s, none⟩ := by
  refine ext_desk fun other => ?_
  rw [desk_withDesk]
  by_cases h : other = name <;> simp [desk, session?, put, dropWaiter, h]

/-- It does not matter whether the waiter goes first. -/
theorem dropWaiter_put (s : Session) :
    (e.dropWaiter name).put name s = e.withDesk name ⟨some s, none⟩ := by
  refine ext_desk fun other => ?_
  rw [desk_withDesk]
  by_cases h : other = name <;> simp [desk, session?, put, dropWaiter, h]

end Engine

end Ensemble
