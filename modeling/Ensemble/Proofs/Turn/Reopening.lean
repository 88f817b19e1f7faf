import Ensemble.Proofs.Turn.Ticket

/-!
# Sessions that are added again

A ticket is a number, and a session that is added under a name that was in use before counts on from
its own generation.  So a ticket of the session that was closed may come round again, and what is
late for it reaches a turn that it does not belong to: `old_ticket_ends_new_turn`.

How far the guard reaches is exact.  A ticket is ignored in all that can be done with the new
session in a number of operations if and only if the session does not come to the ticket in as many
generations (`old_tickets_ignored_iff`).  A session that is put back as it was closed is past every
ticket it has given out, and comes to all others before one of them; one that starts from nothing
comes to the first of them at once.
-/

namespace Ensemble

namespace Desk

/-- A session that is put back avoids the tickets that it is past: if a turn of it was open, the
turn is opened anew in the next generation. -/
theorem avoids_resume {s : Session} {ticket steps generations : Nat} (past : s.Past ticket steps)
    (room : steps + 1 + generations ≤ maxWord64) (now : Timestamp) (waiter : Option Waiter) :
    Avoids ⟨some (s.resume now), waiter⟩ ticket generations := by
  unfold Session.resume
  split
  next =>
    -- Resuming an open turn takes the session one generation further.
    have next : ((s.nextGeneration.openTurn now now).setResumed true).Past ticket (steps + 1) :=
      past.next rfl
    refine .of_past rfl next ?_ room
    rintro _ ⟨⟩ -
    exact next.generation_ne steps.succ_pos (by omega)
  next idle =>
    have same : (s.setResumed false).Past ticket steps := past.stay rfl
    refine .of_past rfl same ?_ (by omega)
    rintro _ ⟨⟩ busy
    exact absurd busy idle

end Desk

namespace Engine

/-- Whether an operation adds a session under a name. -/
def Operation.Adds (name : String) : Operation → Prop
  | .create s => s.name = name
  | .restore s _ => s.name = name
  | _ => False

section Deed

variable {op : Operation} {d d' : Desk} {answer : Answer} {signals : List Signal} {name : String}

theorem Operation.Adds.target_eq (adds : op.Adds name) : op.target = name := by
  cases op with
  | create s => exact adds
  | restore s now => exact adds
  | _ => cases adds

/-- A session that was added is there. -/
theorem Deed.exists_session_of_adds (deed : Deed op d .done d' signals) (adds : op.Adds name) :
    ∃ s, d'.session = some s := by
  cases deed with
  | created | restored => exact ⟨_, rfl⟩
  | noticed | remodelled => cases adds

/-- A session that was restored is resumed. -/
theorem Deed.session_of_restore {s : Session} {now : Timestamp}
    (deed : Deed (.restore s now) d .done d' signals) : d'.session = some (s.resume now) := by
  cases deed with
  | restored => rfl

/-- Closing answers the session that was there. -/
theorem Deed.session_of_close {s : Session} (deed : Deed (.close name) d (.session s) d' signals) :
    d.session = some s := by
  cases deed with
  | closed => rfl

end Deed

variable {e : Engine} {name : String} {ticket : Nat}

/-- Only what comes for a turn that is not open is ignored. -/
theorem Ignores.stale (h : e.Ignores name ticket) : (e.desk name).Stale ticket := by
  apply Classical.byContradiction
  intro isOpen
  obtain ⟨s, found, busy, rfl⟩ := Desk.not_stale_iff.1 isOpen
  obtain ⟨w, signals, -, completed⟩ := complete_of_current found busy .cancelled s.createdAt
  have ignored := (h .idle .cancelled s.createdAt).2
  rw [completed] at ignored
  cases congrArg Step.answer ignored

/-- A turn that overlaps any other starts the next generation. -/
theorem session?_begin_overlapping {s : Session} (found : e.session? name = some s)
    (now : Timestamp) :
    (e.perform (.begin name "" ⟨true, true⟩ 0 now now)).engine.session? name =
      some (s.beginTurn now "" true now) := by
  rw [perform, begin_of_free found (by simp)]
  simp [Step.map]

/-- With one turn after the other, a session comes to each of the generations after its own. -/
theorem exists_after_current {s : Session} (found : e.session? name = some s) (more : Nat) :
    ∃ later, Operation.close name ∉ later ∧ later.length = more + 1 ∧
      ¬ ((e.after later).desk name).Stale (wrap maxWord64 (s.generation + (more + 1))) := by
  have begun := session?_begin_overlapping found s.createdAt
  -- Each overlapping turn moves the generation on by one, so any number of them is reached.
  induction more generalizing e s with
  | zero =>
    refine ⟨[.begin name "" ⟨true, true⟩ 0 s.createdAt s.createdAt], by simp, rfl, ?_⟩
    exact Desk.not_stale_iff.2 ⟨_, begun, rfl, Session.beginTurn_generation ..⟩
  | succ more ih =>
    obtain ⟨later, stays, length, current⟩ := ih begun (session?_begin_overlapping begun _)
    refine ⟨.begin name "" ⟨true, true⟩ 0 s.createdAt s.createdAt :: later, by simp [stays],
      congrArg Nat.succ length, ?_⟩
    rw [Session.beginTurn_generation, s.wrap_nextTicket_add] at current
    exact current

/-- What comes for a ticket is ignored in all that can be done in a number of operations exactly if
the session avoids the ticket for as many generations. -/
theorem ignored_iff_avoids {s : Session} (found : e.session? name = some s)
    (ticket generations : Nat) :
    (∀ later, Operation.close name ∉ later → later.length ≤ generations →
      (e.after later).Ignores name ticket) ↔ (e.desk name).Avoids ticket generations := by
  constructor
  · intro ignored
    have stale := (ignored [] (by simp) (Nat.zero_le _)).stale
    refine ⟨s, found, stale.idle found, fun n some few same => ?_⟩
    -- A ticket that comes round again is taken when just as many turns are begun.
    obtain ⟨more, rfl⟩ := Nat.exists_eq_succ_of_ne_zero (Nat.ne_of_gt some)
    obtain ⟨later, stays, length, current⟩ := exists_after_current found more
    rw [same] at current
    exact current (ignored later stays (length ▸ few)).stale
  · exact fun avoids later stays few => .of_avoids avoids stays few

/--
A session is closed, and one of the same name is added later.  In all that can be done with the new
session in a number of operations, what comes for a ticket is ignored if and only if the ticket is
not that of its open turn, nor that of one of as many generations that follow the one in which it
was added.  If it is the very session that was closed, what comes for the tickets of its former life
is ignored, until all other tickets have come, which are words of 64 bits.
-/
theorem old_tickets_ignored_iff (before during between : List Operation) {name : String}
    (stays : Operation.close name ∉ during) {op : Operation} (adds : op.Adds name) :
    let start := empty.after before
    let closed := (start.after during).perform (.close name)
    let added := (closed.engine.after between).perform op
    added.answer = .done →
      (∀ ticket generations,
        (∀ later, Operation.close name ∉ later → later.length ≤ generations →
          (added.engine.after later).Ignores name ticket) ↔
        ∃ new, added.engine.session? name = some new ∧
          (new.generation = ticket → new.isProcessing = false) ∧
          ∀ n, 0 < n → n ≤ generations → wrap maxWord64 (new.generation + n) ≠ ticket) ∧
      ∀ s now, closed.answer = .session s → op = .restore s now →
        ∀ ticket ∈ tickets name start during, ∀ later, Operation.close name ∉ later →
          during.length + later.length ≤ maxWord64 →
          (added.engine.after later).Ignores name ticket := by
  intro start closed added done
  have deed := perform_deed (closed.engine.after between) op
  rw [show ((closed.engine.after between).perform op).answer = .done from done,
    adds.target_eq] at deed
  obtain ⟨new, found⟩ := deed.exists_session_of_adds adds
  refine ⟨ignored_iff_avoids found, ?_⟩
  rintro s now closes rfl ticket given later stays' room
  have was : (start.after during).session? name = some s := by
    have closing := perform_deed (start.after during) (.close name)
    rw [show ((start.after during).perform (.close name)).answer = .session s from closes]
      at closing
    exact closing.session_of_close
  -- The closed session is past the ticket, and its record takes that with it.
  obtain ⟨t, was', n, few, past⟩ := past_of_mem_tickets stays given
  obtain rfl : s = t := Option.some.inj (was.symm.trans was')
  have resumed : added.engine.desk name =
      ⟨some (s.resume now), added.engine.waiters.get? name⟩ := by
    rw [desk, show added.engine.session? name = _ from deed.session_of_restore]
  have avoids : (added.engine.desk name).Avoids ticket later.length := by
    rw [resumed]
    exact Desk.avoids_resume past (by omega) now _
  exact .of_avoids avoids stays' (Nat.le_refl _)

/-- A session is closed in its second turn and put back; both of its tickets are ignored from then
on, also while a third turn is open. -/
theorem restored_session_ignores :
    let now : Timestamp := ⟨0, 0⟩
    let during := [Operation.create (.fresh "a" "m" now),
      .begin "a" "first" ⟨false, false⟩ 1 now now, .abort "a" now,
      .begin "a" "second" ⟨false, false⟩ 2 now now]
    let closed := (empty.after during).perform (.close "a")
    let s := (Session.fresh "a" "m" now).beginTurn now "first" false now |>.stop now
      |>.beginTurn now "second" false now
    let added := closed.engine.perform (.restore s now)
    Operation.close "a" ∉ during ∧ closed.answer = .session s ∧ added.answer = .done ∧
      tickets "a" empty during = [1, 2] ∧
      ∀ later, Operation.close "a" ∉ later → during.length + later.length ≤ maxWord64 →
        (added.engine.after later).Ignores "a" 2 := by
  intro now during closed s added
  have stays : Operation.close "a" ∉ during := by decide
  have answered : closed.answer = .session s := by decide
  have done : added.answer = .done := by decide
  have given : tickets "a" empty during = [1, 2] := by decide
  have adds : (Operation.restore s now).Adds "a" := rfl
  have second : 2 ∈ tickets "a" empty during := by
    rw [given]
    decide
  exact ⟨stays, answered, done, given,
    (old_tickets_ignored_iff [] during [] stays adds done).2 s now answered rfl 2 second⟩

/-- A session is closed and one of its name created.  The first turn of the new session has the
ticket of the first turn of the old one, whose late end ends it, and its waiter is told. -/
theorem old_ticket_ends_new_turn :
    let now : Timestamp := ⟨0, 0⟩
    let before := [Operation.create (.fresh "a" "m" now),
      .begin "a" "first" ⟨false, false⟩ 1 now now]
    let after := [Operation.close "a", .create (.fresh "a" "m" now),
      .begin "a" "second" ⟨false, false⟩ 2 now now]
    let e := (empty.after before).after after
    let late := e.perform (.apply "a" 1 .idle now)
    tickets "a" empty before = [1] ∧ e.isProcessing "a" = true ∧
      late.answer = .disposition (.ended (.completed "")) ∧
      late.engine.isProcessing "a" = false ∧ late.signals = [⟨2, .completed ""⟩] := by
  decide

end Engine

end Ensemble
