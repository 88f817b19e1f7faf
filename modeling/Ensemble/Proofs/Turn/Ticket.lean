import Ensemble.Proofs.Turn.Deed

/-!
# Tickets

The ticket of a turn is the generation that the turn starts with, and it guards everything that
comes for the turn later.  What makes the guard work over a whole run is that, from the creation of
a session to its close, the generation stays or moves on to the next one, and that an idle session
is set to work again only in the next one: `Deed.session_kept`.

A generation is a word, and so a ticket comes round again in the end, but not before all others
have.  Therefore generations are counted.  A session is past a ticket by a number of them
(`Session.Past`), and it avoids a ticket for as many as are left before the ticket comes round
(`Desk.Avoids`).  Each operation takes one of these at most.
-/

namespace Ensemble

/-! ## Counting from a ticket -/

namespace Session

/-- The generations after the next ticket are those after the current one, counted from there. -/
theorem wrap_nextTicket_add (s : Session) (n : Nat) :
    wrap maxWord64 (s.nextTicket + n) = wrap maxWord64 (s.generation + (n + 1)) := by
  rw [nextTicket, wrap_wrap_add, Nat.add_assoc, Nat.add_comm 1]

/-- The session is in the generation that follows the one of a ticket by a number of steps. -/
def Past (s : Session) (ticket steps : Nat) : Prop :=
  ticket ≤ maxWord64 ∧ s.generation = wrap maxWord64 (ticket + steps)

namespace Past

variable {s s' : Session} {ticket steps : Nat}

/-- A ticket is a word, and its session is past it by nothing. -/
theorem of_nextTicket (h : s'.generation = s.nextTicket) : s'.Past s.nextTicket 0 := by
  have fits : s.nextTicket ≤ maxWord64 := wrap_le ..
  exact ⟨fits, h.trans (wrap_of_le fits).symm⟩

/-- The generations after the current one are also counted from the ticket. -/
theorem wrap_add (h : s.Past ticket steps) (more : Nat) :
    wrap maxWord64 (s.generation + more) = wrap maxWord64 (ticket + (steps + more)) := by
  rw [h.2, wrap_wrap_add, Nat.add_assoc]

/-- With the next generation the session is past a ticket by one more. -/
theorem next (h : s.Past ticket steps) (next : s'.generation = s.nextTicket) :
    s'.Past ticket (steps + 1) :=
  ⟨h.1, next.trans (h.wrap_add 1)⟩

/-- Within a generation a session stays as far past a ticket as it was. -/
theorem stay (h : s.Past ticket steps) (same : s'.generation = s.generation) :
    s'.Past ticket steps :=
  ⟨h.1, same.trans h.2⟩

/-- As long as the count does not go beyond the word, a session is ahead of the ticket. -/
theorem generation_eq (h : s.Past ticket steps) (room : ticket + steps ≤ maxWord64) :
    s.generation = ticket + steps :=
  h.2.trans (wrap_of_le room)

/-- Past a ticket, a session does not come back to it before it has come to all others. -/
theorem generation_ne (h : s.Past ticket steps) (some : 0 < steps) (few : steps ≤ maxWord64) :
    s.generation ≠ ticket :=
  h.2 ▸ wrap_add_ne h.1 some few

end Past

end Session

namespace Desk

/-- No turn with the ticket is open, and none of so many generations that follow is that of the
ticket. -/
def Avoids (d : Desk) (ticket generations : Nat) : Prop :=
  ∃ s, d.session = some s ∧ (s.generation = ticket → s.isProcessing = false) ∧
    ∀ n, 0 < n → n ≤ generations → wrap maxWord64 (s.generation + n) ≠ ticket

namespace Avoids

variable {d : Desk} {ticket generations : Nat}

/-- No turn with a ticket that is avoided is open. -/
theorem stale (h : d.Avoids ticket generations) : d.Stale ticket := by
  obtain ⟨s, found, idle, -⟩ := h
  intro s' found' busy same
  obtain rfl : s = s' := Option.some.inj (found.symm.trans found')
  exact absurd (idle same) (by simp [busy])

/-- Who avoids a ticket avoids it for a shorter while. -/
theorem mono {fewer : Nat} (h : d.Avoids ticket generations) (le : fewer ≤ generations) :
    d.Avoids ticket fewer := by
  obtain ⟨s, found, idle, apart⟩ := h
  exact ⟨s, found, idle, fun n some few => apart n some (Nat.le_trans few le)⟩

/-- A ticket that the session is past, and that is not that of the open turn, is avoided until all
other generations have come. -/
theorem of_past {s : Session} {steps : Nat} (found : d.session = some s)
    (past : s.Past ticket steps) (stale : d.Stale ticket)
    (room : steps + generations ≤ maxWord64) : d.Avoids ticket generations := by
  refine ⟨s, found, stale.idle found, fun n some few => ?_⟩
  rw [past.wrap_add]
  exact wrap_add_ne past.1 (Nat.add_pos_right steps some) (by omega)

end Avoids

end Desk

namespace Engine

/-! ## What every step keeps -/

section Step

variable {op : Operation} {d d' : Desk} {answer : Answer} {signals : List Signal}

/-- Unless it is closed, a session stays.  It goes on to the next generation, or it stays in its own
and is then not set to work. -/
theorem Deed.session_kept (deed : Deed op d answer d' signals) (stays : ∀ name, op ≠ .close name)
    {s : Session} (found : d.session = some s) :
    ∃ s', d'.session = some s' ∧ (s'.generation = s.nextTicket ∨
      s'.generation = s.generation ∧ (s'.isProcessing = true → s.isProcessing = true)) := by
  cases deed with
  | refused | ignored | unmoved | abortedIdle | tookNothing =>
    exact ⟨s, found, .inr ⟨rfl, id⟩⟩
  | created | restored | closedNothing | abortedNothing => cases found
  | @closed name => exact absurd rfl (stays name)
  | enqueued | taken | noticed | recoveredIdle | remodelled =>
    cases found
    exact ⟨_, rfl, .inr ⟨rfl, id⟩⟩
  | absorbed busy | ended busy | completed busy =>
    cases found
    -- these pass the guard, which says that the session is at work already
    exact ⟨_, rfl, .inr ⟨by simp, fun _ => busy⟩⟩
  | advanced =>
    cases found
    exact ⟨_, rfl, .inl rfl⟩
  | begun =>
    cases found
    exact ⟨_, rfl, .inl (by simp)⟩
  | aborted | recovered =>
    cases found
    exact ⟨_, rfl, .inr ⟨Session.stop_generation .., fun busy => by simp at busy⟩⟩

/-- A ticket is given out for a turn that starts the next generation of a session. -/
theorem Deed.ticket_eq {ticket : Nat} (deed : Deed op d (.ticket ticket) d' signals) :
    ∃ s s', d.session = some s ∧ d'.session = some s' ∧ ticket = s.nextTicket ∧
      s'.generation = ticket := by
  cases deed with
  | begun => exact ⟨_, _, rfl, rfl, rfl, by simp⟩

/-- Unless the session is closed, it avoids a ticket for one generation less. -/
theorem Deed.avoids (deed : Deed op d answer d' signals) (stays : ∀ name, op ≠ .close name)
    {ticket generations : Nat} (h : d.Avoids ticket (generations + 1)) :
    d'.Avoids ticket generations := by
  obtain ⟨s, found, idle, apart⟩ := h
  obtain ⟨s', found', next | ⟨same, onlyThen⟩⟩ := deed.session_kept stays found
  · -- The generation moves on by one, and uses up one of those that are to come.
    have ne : s'.generation ≠ ticket := next ▸ apart 1 Nat.one_pos (Nat.le_add_left 1 _)
    refine ⟨s', found', fun same => absurd same ne, fun n some few => ?_⟩
    rw [next, s.wrap_nextTicket_add]
    exact apart (n + 1) n.succ_pos (Nat.succ_le_succ few)
  · refine ⟨s', found', fun current => ?_, fun n some few => ?_⟩
    · cases busy : s'.isProcessing with
      | false => rfl
      | true => exact absurd (onlyThen busy) (by simp [idle (same.symm.trans current)])
    · rw [same]
      exact apart n some (Nat.le_succ_of_le few)

/-- Unless it is closed, a session is past a ticket, and by one step more at most. -/
theorem Deed.past (deed : Deed op d answer d' signals) (stays : ∀ name, op ≠ .close name)
    {ticket count : Nat} (h : ∃ s, d.session = some s ∧ ∃ n ≤ count, s.Past ticket n) :
    ∃ s, d'.session = some s ∧ ∃ n ≤ count + 1, s.Past ticket n := by
  obtain ⟨s, found, n, few, past⟩ := h
  obtain ⟨s', found', next | ⟨same, -⟩⟩ := deed.session_kept stays found
  · exact ⟨s', found', n + 1, Nat.succ_le_succ few, past.next next⟩
  · exact ⟨s', found', n, Nat.le_succ_of_le few, past.stay same⟩

end Step

/-! ## Runs -/

/-- The engine after operations. -/
def after (e : Engine) (ops : List Operation) : Engine :=
  ops.foldl (fun e op => (e.perform op).engine) e

@[simp] theorem after_nil (e : Engine) : e.after [] = e := rfl

@[simp] theorem after_cons (e : Engine) (op : Operation) (rest : List Operation) :
    e.after (op :: rest) = (e.perform op).engine.after rest := rfl

/-- The ticket that an operation has given out for a turn of a session, if it has. -/
def ticketGiven? (name : String) (op : Operation) (answer : Answer) : Option Nat :=
  match answer with
  | .ticket number => if op.target = name then some number else none
  | _ => none

theorem ticketGiven?_eq_some {name : String} {op : Operation} {answer : Answer} {ticket : Nat} :
    ticketGiven? name op answer = some ticket ↔ op.target = name ∧ answer = .ticket ticket := by
  cases answer <;> simp [ticketGiven?]

/-- The tickets that are given out for turns of a session while operations are performed. -/
def tickets (name : String) : Engine → List Operation → List Nat
  | _, [] => []
  | e, op :: rest =>
    let s := e.perform op
    (ticketGiven? name op s.answer).toList ++ tickets name s.engine rest

/-- The engine takes nothing that comes for the turn with a ticket: it ignores every event and every
completion, and stays as it is. -/
def Ignores (e : Engine) (name : String) (ticket : Nat) : Prop :=
  ∀ event outcome now,
    e.apply name ticket event now = ⟨.ignored, e, []⟩ ∧
      e.complete name ticket outcome now = ⟨false, e, []⟩

variable {e : Engine} {name : String}

/-- What comes for a turn that is not open is ignored. -/
theorem Ignores.of_stale {ticket : Nat} (stale : (e.desk name).Stale ticket) :
    e.Ignores name ticket :=
  fun event outcome now => ⟨apply_of_stale event now stale, complete_of_stale outcome now stale⟩

/-- What the deeds of a run keep at a desk, counting by one, the run keeps.  The count need not be
exact, since not every operation of a run is a deed at the desk. -/
theorem desk_after_of_mem {P : Nat → Desk → Prop} (ops : List Operation)
    (step : ∀ {n op d answer d' signals}, op ∈ ops → op.target = name →
      Deed op d answer d' signals → P n d → P (n + 1) d')
    (mono : ∀ {n d}, P n d → P (n + 1) d) {n : Nat} (h : P n (e.desk name)) :
    P (n + ops.length) ((e.after ops).desk name) := by
  induction ops generalizing e n with
  | nil => exact h
  | cons op rest ih =>
    rw [List.length_cons, Nat.add_comm rest.length, ← Nat.add_assoc]
    refine ih (fun mem => step (List.mem_cons_of_mem op mem)) ?_
    by_cases here : name = op.target
    · subst here
      exact step List.mem_cons_self rfl (perform_deed e op) h
    · rw [perform_desk_of_ne e op here]
      exact mono h

/-- What the deeds at a desk keep, a run keeps that does not close the session. -/
theorem desk_after {P : Nat → Desk → Prop}
    (step : ∀ {n op d answer d' signals}, Deed op d answer d' signals →
      (∀ name, op ≠ .close name) → P n d → P (n + 1) d')
    (mono : ∀ {n d}, P n d → P (n + 1) d) {ops : List Operation}
    (stays : Operation.close name ∉ ops) {n : Nat} (h : P n (e.desk name)) :
    P (n + ops.length) ((e.after ops).desk name) := by
  refine desk_after_of_mem ops (fun mem target deed => step deed ?_) mono h
  rintro other rfl
  obtain rfl : other = name := target
  exact stays mem

/-- What comes for a ticket is ignored for as long as the session avoids the ticket. -/
theorem Ignores.of_avoids {ticket generations : Nat}
    (h : (e.desk name).Avoids ticket generations) {later : List Operation}
    (stays : Operation.close name ∉ later) (few : later.length ≤ generations) :
    (e.after later).Ignores name ticket := by
  have avoids := desk_after
    (P := fun n d => ∀ left, n + left ≤ generations → d.Avoids ticket left)
    (fun deed stays avoids left le => deed.avoids stays (avoids (left + 1) (by omega)))
    (fun avoids left le => avoids left (by omega))
    stays (n := 0) (fun left le => h.mono (by omega))
  exact .of_stale (avoids 0 (by omega)).stale

/-- Unless it is closed, a session stays past a ticket, and by one step more for each operation at
most. -/
theorem past_after {ops : List Operation} (stays : Operation.close name ∉ ops) {ticket count : Nat}
    (h : ∃ s, e.session? name = some s ∧ ∃ n ≤ count, s.Past ticket n) :
    ∃ s, (e.after ops).session? name = some s ∧ ∃ n ≤ count + ops.length, s.Past ticket n :=
  desk_after (P := fun count d => ∃ s, d.session = some s ∧ ∃ n ≤ count, s.Past ticket n)
    (fun deed stays past => deed.past stays past)
    (fun ⟨s, found, n, few, past⟩ => ⟨s, found, n, Nat.le_succ_of_le few, past⟩) stays h

/-- A ticket of a run is given out by its first operation or by a later one. -/
theorem mem_tickets_cons {op : Operation} {rest : List Operation} {ticket : Nat} :
    ticket ∈ tickets name e (op :: rest) ↔
      (op.target = name ∧ (e.perform op).answer = .ticket ticket) ∨
        ticket ∈ tickets name (e.perform op).engine rest := by
  rw [tickets, List.mem_append, Option.mem_toList, ticketGiven?_eq_some]

/-- The session has just come to the ticket that it gives out. -/
theorem past_of_answer {op : Operation} {ticket : Nat} (here : op.target = name)
    (given : (e.perform op).answer = .ticket ticket) :
    ∃ t s, e.session? name = some t ∧ (e.perform op).engine.session? name = some s ∧
      ticket = t.nextTicket ∧ s.Past ticket 0 := by
  have deed := perform_deed e op
  rw [given, here] at deed
  obtain ⟨t, s, before, found, rfl, same⟩ := deed.ticket_eq
  exact ⟨t, s, before, found, rfl, .of_nextTicket same⟩

/-- If a session is past a ticket, it comes to the tickets that it gives out later by more steps,
one for each operation at most. -/
theorem wrap_of_mem_tickets {ops : List Operation} (stays : Operation.close name ∉ ops)
    {ticket count : Nat} (h : ∃ s, e.session? name = some s ∧ ∃ n ≤ count, s.Past ticket n)
    {later : Nat} (mem : later ∈ tickets name e ops) :
    ∃ n, 0 < n ∧ n ≤ count + ops.length ∧ later = wrap maxWord64 (ticket + n) := by
  induction ops generalizing e count with
  | nil => cases mem
  | cons op rest ih =>
    rw [mem_tickets_cons] at mem
    rcases mem with ⟨here, given⟩ | mem
    · obtain ⟨s, found, n, few, past⟩ := h
      obtain ⟨t, _, before, -, rfl, -⟩ := past_of_answer here given
      obtain rfl : s = t := Option.some.inj (found.symm.trans before)
      exact ⟨n + 1, n.succ_pos, by simp; omega, past.wrap_add 1⟩
    · have first : Operation.close name ∉ [op] :=
        fun mem => stays (List.mem_singleton.1 mem ▸ List.mem_cons_self)
      obtain ⟨n, some, few, same⟩ :=
        ih (fun mem => stays (List.mem_cons_of_mem _ mem)) (past_after first h) mem
      exact ⟨n, some, by simp at few ⊢; omega, same⟩

/-- When a run is over, a session is past every ticket that was given out in it, by less than there
were operations. -/
theorem past_of_mem_tickets {ops : List Operation} (stays : Operation.close name ∉ ops)
    {ticket : Nat} (h : ticket ∈ tickets name e ops) :
    ∃ s, (e.after ops).session? name = some s ∧ ∃ n < ops.length, s.Past ticket n := by
  induction ops generalizing e with
  | nil => cases h
  | cons op rest ih =>
    have later : Operation.close name ∉ rest := fun mem => stays (List.mem_cons_of_mem _ mem)
    rw [mem_tickets_cons] at h
    rcases h with ⟨here, given⟩ | h
    · obtain ⟨_, s, -, found, -, past⟩ := past_of_answer here given
      obtain ⟨t, still, n, few, past'⟩ := past_after later ⟨s, found, 0, Nat.le_refl 0, past⟩
      exact ⟨t, still, n, by simp; omega, past'⟩
    · obtain ⟨s, found, n, few, past⟩ := ih later h
      exact ⟨s, found, n, Nat.lt_succ_of_lt few, past⟩

/-- From its creation to its close the tickets of a session differ, until all have come, and they
increase, until the last one has come. -/
theorem tickets_pairwise {ops : List Operation} (stays : Operation.close name ∉ ops) :
    (tickets name e ops).Pairwise fun earlier later =>
      (ops.length ≤ maxWord64 → earlier ≠ later) ∧
        (earlier + ops.length ≤ maxWord64 → earlier < later) := by
  induction ops generalizing e with
  | nil => exact .nil
  | cons op rest ih =>
    have stays' : Operation.close name ∉ rest := fun mem => stays (List.mem_cons_of_mem _ mem)
    have apart := (ih (e := (e.perform op).engine) stays').imp fun {earlier later} both =>
      And.intro (fun few => both.1 (Nat.le_of_succ_le few))
        fun room => both.2 (Nat.le_of_succ_le room)
    rw [tickets]
    cases given : ticketGiven? name op (e.perform op).answer with
    | none => exact apart
    | some ticket =>
      refine List.pairwise_cons.2 ⟨fun later mem => ?_, apart⟩
      obtain ⟨here, answered⟩ := ticketGiven?_eq_some.1 given
      obtain ⟨_, s, -, found, -, past⟩ := past_of_answer here answered
      -- Every later ticket is some generations further on, at most one for each operation.
      obtain ⟨n, some, few, rfl⟩ :=
        wrap_of_mem_tickets stays' ⟨s, found, 0, Nat.le_refl 0, past⟩ mem
      rw [List.length_cons]
      refine ⟨fun room => (wrap_add_ne past.1 some (by omega)).symm, fun room => ?_⟩
      rw [wrap_of_le (by omega)]
      exact Nat.lt_add_of_pos_right some

/-! ## Stale tickets -/

/--
In every state that a run reaches, what comes for a turn that is not open is ignored.  As long as a
session is not closed its tickets increase, and one that was given out and is not that of the open
turn is ignored from then on, whatever is done.

Tickets are words of 64 bits.  They increase up to the greatest one, and none comes round again
before all others have: the bounds say that the operations are too few for that.
-/
theorem stale_tickets_ignored (before during : List Operation) (name : String)
    (stays : Operation.close name ∉ during) :
    let start := empty.after before
    let e := start.after during
    (∀ ticket, (e.desk name).Stale ticket → e.Ignores name ticket) ∧
      ((tickets name start during).Pairwise fun earlier later =>
        (during.length ≤ maxWord64 → earlier ≠ later) ∧
          (earlier + during.length ≤ maxWord64 → earlier < later)) ∧
      ∀ ticket ∈ tickets name start during, (e.desk name).Stale ticket →
        ∀ later, Operation.close name ∉ later → during.length + later.length ≤ maxWord64 →
          (e.after later).Ignores name ticket := by
  intro start e
  refine ⟨fun ticket stale => .of_stale stale, tickets_pairwise stays, ?_⟩
  intro ticket given stale later stays' room
  obtain ⟨s, found, n, few, past⟩ := past_of_mem_tickets stays given
  have avoids : (e.desk name).Avoids ticket later.length :=
    .of_past found past stale (by omega)
  exact .of_avoids avoids stays' (Nat.le_refl _)

/-- The first turn of a session is overlapped by a second one; its ticket is ignored for good. -/
theorem overlapped_ticket_ignored :
    let now : Timestamp := ⟨0, 0⟩
    let during := [Operation.create (.fresh "a" "m" now),
      .begin "a" "first" ⟨false, false⟩ 1 now now, .begin "a" "second" ⟨false, true⟩ 2 now now,
      .nextGeneration "a", .complete "a" 3 .cancelled now]
    Operation.close "a" ∉ during ∧ 1 ∈ tickets "a" empty during ∧
      ((empty.after during).desk "a").Stale 1 ∧
      ∀ later, Operation.close "a" ∉ later → during.length + later.length ≤ maxWord64 →
        ((empty.after during).after later).Ignores "a" 1 := by
  intro now during
  have stays : Operation.close "a" ∉ during := by decide
  have given : 1 ∈ tickets "a" empty during := by decide
  have stale : ((empty.after during).desk "a").Stale 1 := by decide
  exact ⟨stays, given, stale, (stale_tickets_ignored [] during "a" stays).2.2 1 given stale⟩

end Engine

end Ensemble
