import Ensemble.Proofs.Turn.Waiter

/-!
# Responses

A turn that completes answers all content that came for it, in order, and nothing else.

The engine tells turns apart by their tickets, and a session keeps one response.  What ties the two
together is the invariant `Desk.Listens`: the session is past every turn that was begun, and the
response of the open turn is the content that came for the turn whose ticket is the generation of
the session.  It needs a run that is `Orderly`: events come for turns that were begun, turns are not
completed from outside, and no name is used again under which a turn was begun.  The generations are
counted along the run, since after as many as a word can tell apart tickets come round again.
-/

namespace Ensemble

/-- The content that events bring, in order. -/
def textOf (events : List StreamEvent) : String :=
  String.join (events.map StreamEvent.text)

@[simp] theorem textOf_nil : textOf [] = "" := rfl

/-- An event adds its content to that of the events before it. -/
@[simp] theorem textOf_concat (events : List StreamEvent) (event : StreamEvent) :
    textOf (events ++ [event]) = textOf events ++ event.text := by
  simp [textOf, String.join]

namespace Engine

namespace Operation

/-- The event that an operation brings for a turn. -/
def eventFor? (op : Operation) (name : String) (ticket : Nat) : Option StreamEvent :=
  match op with
  | .apply other number event _ => if other = name ∧ number = ticket then some event else none
  | _ => none

/-- An operation that can fail brings no event. -/
theorem eventFor?_of_canFail {op : Operation} (h : op.canFail = true) (name : String)
    (ticket : Nat) : op.eventFor? name ticket = none := by
  cases op with
  | apply => cases h
  | _ => rfl

/-- Whether an operation can take a session to its next generation. -/
def counts : Operation → Bool
  | .begin .. | .nextGeneration _ => true
  | _ => false

/-- Whether an operation keeps the order at a desk: events come for turns that are known, turns are
not completed from outside, and no session is added where turns are known. -/
def Orderly (op : Operation) (d : Desk) (known : Nat → Prop) : Prop :=
  match op with
  | .create _ => d.session = none → ∀ ticket, ¬ known ticket
  | .restore _ _ => d.session = none → ∀ ticket, ¬ known ticket
  | .apply _ ticket _ _ => known ticket
  | .complete .. => False
  | _ => True

end Operation

end Engine

namespace Desk

/-- The open turn of a session has listened to what came for it: there is nothing for turns that are
not known, the session is past those known by a number of generations at most, and the response of
the open turn, if it is known, is all content that came for it. -/
structure Listens (d : Desk) (known : Nat → Prop) (heard : Nat → List StreamEvent) (count : Nat) :
    Prop where
  unheard : ∀ ticket, ¬ known ticket → heard ticket = []
  reached : ∀ s, d.session = some s → ∀ ticket, known ticket → ∃ n ≤ count, s.Past ticket n
  collected : ∀ s, d.session = some s → s.isProcessing = true → known s.generation →
    s.turnResponse = textOf (heard s.generation) ∧
      ∀ event ∈ heard s.generation, event.isTerminal = false

namespace Listens

variable {d d' : Desk} {known : Nat → Prop} {heard : Nat → List StreamEvent} {count : Nat}

/-- Generations may be counted generously. -/
theorem mono (h : d.Listens known heard count) {more : Nat} (le : count ≤ more) :
    d.Listens known heard more where
  unheard := h.unheard
  reached := by
    intro s found ticket asked
    obtain ⟨n, few, past⟩ := h.reached s found ticket asked
    exact ⟨n, Nat.le_trans few le, past⟩
  collected := h.collected

/-- Within a generation a session may stay as it is or become idle. -/
theorem stay (h : d.Listens known heard count)
    (stays : ∀ s', d'.session = some s' → ∃ s, d.session = some s ∧
      s'.generation = s.generation ∧
        (s'.isProcessing = true → s.isProcessing = true ∧ s'.turnResponse = s.turnResponse)) :
    d'.Listens known heard count where
  unheard := h.unheard
  reached := by
    intro s' found' ticket asked
    obtain ⟨s, found, same, -⟩ := stays s' found'
    obtain ⟨n, few, past⟩ := h.reached s found ticket asked
    exact ⟨n, few, past.stay same⟩
  collected := by
    intro s' found' busy' asked
    obtain ⟨s, found, same, kept⟩ := stays s' found'
    obtain ⟨busy, response⟩ := kept busy'
    rw [same] at asked ⊢
    rw [response]
    exact h.collected s found busy asked

/-- The next generation is not that of a turn that is known, unless too many have been. -/
theorem unknown (h : d.Listens known heard count) (room : count < maxWord64) {s : Session}
    (found : d.session = some s) : ¬ known s.nextTicket := by
  intro asked
  obtain ⟨n, few, past⟩ := h.reached s found _ asked
  have next : s.nextGeneration.Past s.nextTicket (n + 1) := past.next rfl
  exact next.generation_ne n.succ_pos (by omega) rfl

/-- With its next generation a session is past all turns that are known. -/
theorem advance (h : d.Listens known heard count) (room : count < maxWord64) {s s' : Session}
    (found : d.session = some s) (found' : d'.session = some s')
    (next : s'.generation = s.nextTicket) : d'.Listens known heard (count + 1) where
  unheard := h.unheard
  reached := by
    intro t there ticket asked
    obtain rfl : s' = t := Option.some.inj (found'.symm.trans there)
    obtain ⟨n, few, past⟩ := h.reached s found ticket asked
    exact ⟨n + 1, Nat.succ_le_succ few, past.next next⟩
  collected := by
    intro t there _ asked
    obtain rfl : s' = t := Option.some.inj (found'.symm.trans there)
    exact absurd (next ▸ asked) (h.unknown room found)

/-- A turn that has just begun has not heard anything. -/
theorem ask (h : d.Listens known heard count) {s : Session} (found : d.session = some s)
    (fresh : ¬ known s.generation) (start : s.Past s.generation 0) (silent : s.turnResponse = "") :
    d.Listens (fun ticket => known ticket ∨ ticket = s.generation) heard count where
  unheard := fun ticket unknown => h.unheard ticket fun asked => unknown (.inl asked)
  reached := by
    intro s' found' ticket asked
    obtain rfl : s = s' := Option.some.inj (found.symm.trans found')
    -- the new ticket has no steps behind it yet
    rcases asked with asked | rfl
    · exact h.reached s found ticket asked
    · exact ⟨0, Nat.zero_le _, start⟩
  collected := by
    intro s' found' _ _
    obtain rfl : s = s' := Option.some.inj (found.symm.trans found')
    rw [h.unheard _ fresh, silent]
    exact ⟨rfl, by simp⟩

/-- An event may go to the open turn, end it, or come for another one. -/
theorem hear (h : d.Listens known heard count) {ticket : Nat} (asked : known ticket)
    (event : StreamEvent)
    (takes : ∀ s', d'.session = some s' → ∃ s, d.session = some s ∧
      s'.generation = s.generation ∧ (s'.isProcessing = true → s.isProcessing = true ∧
        (s.generation = ticket →
          event.isTerminal = false ∧ s'.turnResponse = s.turnResponse ++ event.text) ∧
        (s.generation ≠ ticket → s'.turnResponse = s.turnResponse))) :
    d'.Listens known
      (fun number => heard number ++ (if ticket = number then some event else none).toList)
      count where
  unheard := by
    intro number unknown
    have other : ticket ≠ number := fun same => unknown (same ▸ asked)
    rw [h.unheard number unknown, if_neg other]
    rfl
  reached := by
    intro s' found' number asked
    obtain ⟨s, found, same, -⟩ := takes s' found'
    obtain ⟨n, few, past⟩ := h.reached s found number asked
    exact ⟨n, few, past.stay same⟩
  collected := by
    intro s' found' busy' asked
    obtain ⟨s, found, same, kept⟩ := takes s' found'
    obtain ⟨busy, here, elsewhere⟩ := kept busy'
    rw [same] at asked ⊢
    obtain ⟨response, goesOn⟩ := h.collected s found busy asked
    -- the event is one of the open turn, or of another one that is not asked about here
    by_cases mine : s.generation = ticket
    · obtain ⟨goesOn', grows⟩ := here mine
      rw [grows, response, if_pos mine.symm, Option.toList_some, textOf_concat]
      refine ⟨rfl, fun event' mem => ?_⟩
      rcases List.mem_append.1 mem with old | new
      · exact goesOn event' old
      · rw [List.mem_singleton.1 new]
        exact goesOn'
    · rw [elsewhere mine, if_neg (Ne.symm mine), Option.toList_none, List.append_nil]
      exact ⟨response, goesOn⟩

end Listens

end Desk

namespace Engine

/-- An event after which the turn goes on is not terminal. -/
theorem isTerminal_of_goesOn {s : Session} {event : StreamEvent} (h : outcomeOf? s event = none) :
    event.isTerminal = false := by
  cases event with
  | idle | fault => cases h
  | _ => rfl

/-- Where no turn is begun and no event comes, the same turns have heard the same. -/
theorem listens_of_silent {op : Operation} {d : Desk} {answer : Answer} {known : Nat → Prop}
    {heard : Nat → List StreamEvent} {count : Nat}
    (silent : ∀ ticket, op.eventFor? op.target ticket = none)
    (begins : ∀ ticket, answer ≠ .ticket ticket) (h : d.Listens known heard count) :
    d.Listens (fun ticket => known ticket ∨ answer = .ticket ticket)
      (fun ticket => heard ticket ++ (op.eventFor? op.target ticket).toList) count := by
  simp only [silent, begins, or_false, Option.toList_none, List.append_nil]
  exact h

/-- Every orderly deed lets the open turn listen on, as long as there are generations left. -/
theorem Deed.listens {op : Operation} {d d' : Desk} {answer : Answer} {signals : List Signal}
    {known : Nat → Prop} {heard : Nat → List StreamEvent} {count : Nat}
    (deed : Deed op d answer d' signals) (orderly : op.Orderly d known)
    (room : count + op.counts.toNat ≤ maxWord64) (h : d.Listens known heard count) :
    d'.Listens (fun ticket => known ticket ∨ answer = .ticket ticket)
      (fun ticket => heard ticket ++ (op.eventFor? op.target ticket).toList)
      (count + op.counts.toNat) := by
  cases deed with
  | refused fails =>
    exact listens_of_silent (Operation.eventFor?_of_canFail fails _) (by simp)
      (h.mono (Nat.le_add_right ..))
  | created | restored =>
    refine listens_of_silent (fun _ => rfl) (by simp) ?_
    -- nothing was begun under the name, so that there is nothing the session could have missed
    have fresh := orderly rfl
    exact ⟨h.unheard, fun s found ticket asked => absurd asked (fresh ticket),
      fun s found busy asked => absurd asked (fresh _)⟩
  | closed | closedNothing | abortedNothing =>
    refine listens_of_silent (fun _ => rfl) (by simp) ?_
    exact h.stay fun s' found => by cases found
  | advanced => exact listens_of_silent (fun _ => rfl) (by simp) (h.advance room rfl rfl rfl)
  | @begun name prompt options number startedAt now s w free =>
    have generation := s.beginTurn_generation now prompt options.suppressPrompt startedAt
    have moved : (Desk.mk (some (s.beginTurn now prompt options.suppressPrompt startedAt))
        (some ⟨s.nextTicket, number⟩)).Listens known heard (count + 1) :=
      h.advance room rfl rfl generation
    -- with the new generation the turn before is over, and only then is the new one known
    have asked := moved.ask rfl (generation ▸ h.unknown room rfl)
      (generation ▸ .of_nextTicket generation) rfl
    simp only [generation] at asked
    simp only [Operation.eventFor?, Answer.ticket.injEq, Option.toList_none, List.append_nil]
    simpa only [eq_comm, Operation.counts, Bool.toNat_true] using asked
  | absorbed busy goesOn =>
    simp only [Operation.eventFor?, Operation.target, true_and, reduceCtorEq, or_false]
    refine h.hear orderly _ fun s' found => ?_
    cases found
    refine ⟨_, rfl, absorb_generation .., fun _ => ⟨busy, fun _ => ?_, fun other => ?_⟩⟩
    · exact ⟨isTerminal_of_goesOn goesOn, absorb_turnResponse _ _ _ goesOn⟩
    · exact absurd rfl other
  | ended busy ends ending =>
    simp only [Operation.eventFor?, Operation.target, true_and, reduceCtorEq, or_false]
    refine h.hear orderly _ fun s' found => ?_
    cases found
    exact ⟨_, rfl, by simp, fun busy => by simp at busy⟩
  | ignored stale =>
    simp only [Operation.eventFor?, Operation.target, true_and, reduceCtorEq, or_false]
    refine h.hear orderly _ fun s found => ?_
    exact ⟨s, found, rfl, fun busy => ⟨busy, fun mine => absurd mine (stale s found busy),
      fun _ => rfl⟩⟩
  | completed | unmoved => exact orderly.elim
  | aborted | recovered =>
    refine listens_of_silent (fun _ => rfl) (by simp) (h.stay fun s' found => ?_)
    cases found
    exact ⟨_, rfl, Session.stop_generation .., fun busy => by simp at busy⟩
  | tookNothing => exact listens_of_silent (fun _ => rfl) (by simp) h
  | abortedIdle | enqueued | taken | noticed | recoveredIdle | remodelled =>
    refine listens_of_silent (fun _ => rfl) (by simp) (h.stay fun s' found => ?_)
    cases found
    exact ⟨_, rfl, rfl, fun busy => ⟨busy, rfl⟩⟩

/-- An operation that gives out a ticket takes its session to the next generation. -/
theorem Deed.counts_of_ticket {op : Operation} {d d' : Desk} {ticket : Nat} {signals : List Signal}
    (deed : Deed op d (.ticket ticket) d' signals) : op.counts = true := by
  cases deed with
  | begun => rfl

/-- An event that has a response sent is idle, and the response is that of the open turn. -/
theorem Deed.response_eq {name : String} {ticket : Nat} {event : StreamEvent} {now : Timestamp}
    {d d' : Desk} {answer : Answer} {signals : List Signal} {number : Nat} {response : String}
    (deed : Deed (.apply name ticket event now) d answer d' signals)
    (sent : ⟨number, .completed response⟩ ∈ signals) :
    event = .idle ∧ ∃ s, d.session = some s ∧ s.isProcessing = true ∧ s.generation = ticket ∧
      response = s.turnResponse := by
  cases deed with
  | ended busy ends ending =>
    cases ending with
    | told =>
      cases List.mem_singleton.1 sent
      -- of the terminal events only the idle one completes
      cases event with
      | idle =>
        cases ends
        exact ⟨rfl, _, rfl, busy, rfl, rfl⟩
      | _ => cases ends
    | other | nobody => cases sent
  | _ => cases sent

/-! ## Orderly runs -/

namespace Operation

variable (op : Operation) (number : Nat)

/-- Numbering an operation does not change the event it brings. -/
@[simp] theorem eventFor?_numbered (name : String) (ticket : Nat) :
    (op.numbered number).eventFor? name ticket = op.eventFor? name ticket := by
  cases op <;> rfl

/-- Numbering an operation does not change whether it counts. -/
@[simp] theorem counts_numbered : (op.numbered number).counts = op.counts := by
  cases op <;> rfl

/-- Numbering an operation does not change whether it is orderly. -/
@[simp] theorem orderly_numbered (d : Desk) (known : Nat → Prop) :
    (op.numbered number).Orderly d known ↔ op.Orderly d known := by
  cases op <;> rfl

/-- Whether an operation neither adds nor closes a session nor comes for a turn. -/
def isPlain : Operation → Bool
  | .create _ | .restore .. | .close _ | .apply .. | .complete .. => false
  | _ => true

/-- Plain operations are orderly at every desk. -/
theorem orderly_of_isPlain {op : Operation} (h : op.isPlain = true) (d : Desk)
    (known : Nat → Prop) : op.Orderly d known := by
  cases op with
  | create | restore | apply | complete => cases h
  | _ => trivial

/-- Plain operations bring no events. -/
theorem eventFor?_of_isPlain {op : Operation} (h : op.isPlain = true) (name : String)
    (ticket : Nat) : op.eventFor? name ticket = none := by
  cases op with
  | apply => cases h
  | _ => rfl

/-- Plain operations close no session. -/
theorem ne_close_of_isPlain {op : Operation} (h : op.isPlain = true) (name : String) :
    op ≠ .close name := by
  rintro rfl
  cases h

/-- Events go to the session that the operation names. -/
theorem eventFor?_of_ne {name : String} (h : name ≠ op.target) (ticket : Nat) :
    op.eventFor? name ticket = none := by
  cases op with
  | apply other number event now => exact if_neg fun same => h same.1.symm
  | _ => rfl

end Operation

namespace History

/-- Whether the turn of a session with a ticket was begun. -/
def Knows (h : History) (name : String) (ticket : Nat) : Prop :=
  ∃ turn ∈ h.begun, turn.session = name ∧ turn.ticket = ticket

/-- The turns that are known after an operation. -/
theorem knows_perform {h : History} {op : Operation} {name : String} {ticket : Nat} :
    (h.perform op).Knows name ticket ↔
      h.Knows name ticket ∨ (op.target = name ∧
        (h.engine.perform (op.numbered (h.begun.length + 1))).answer = .ticket ticket) := by
  have deed := perform_deed h.engine (op.numbered (h.begun.length + 1))
  rw [Operation.target_numbered] at deed
  simp only [Knows, History.perform, List.mem_append, Option.mem_toList, or_and_right, exists_or]
  refine or_congr_right ⟨?_, ?_⟩
  · rintro ⟨turn, begun, rfl, rfl⟩
    have same := eq_of_begunTurn?_eq_some begun
    rwa [Operation.target_numbered] at same
  · rintro ⟨rfl, answered⟩
    rw [answered] at deed ⊢
    obtain ⟨number, begun⟩ := deed.begunTurn?_eq_some
    rw [Operation.target_numbered] at begun
    exact ⟨_, begun, rfl, rfl⟩

/-- Every session has listened to what came for it, in so many generations at most, and session and
ticket tell turns apart. -/
structure Attentive (h : History) (heard : String → Nat → List StreamEvent) (count : Nat) :
    Prop where
  listens : ∀ name, (h.engine.desk name).Listens (h.Knows name) (heard name) count
  apart : (h.begun.map fun turn => (turn.session, turn.ticket)).Nodup

namespace Attentive

variable {h : History} {heard : String → Nat → List StreamEvent} {count : Nat}

/-- Nothing has been heard at the start. -/
theorem start : Attentive .start (fun _ _ => []) 0 where
  listens := fun _ => ⟨fun _ _ => rfl, by rintro _ ⟨⟩, by rintro _ ⟨⟩⟩
  apart := .nil

/-- A turn that an operation begins is none of those that are known. -/
theorem fresh (a : h.Attentive heard count) {op : Operation}
    (room : count + op.counts.toNat ≤ maxWord64) {ticket : Nat}
    (answered : (h.engine.perform op).answer = .ticket ticket) : ¬ h.Knows op.target ticket := by
  have deed := perform_deed h.engine op
  rw [answered] at deed
  obtain ⟨s, -, found, -, rfl, -⟩ := deed.ticket_eq
  rw [deed.counts_of_ticket] at room
  exact (a.listens op.target).unknown room found

/-- Every orderly operation keeps the sessions attentive. -/
theorem perform (a : h.Attentive heard count) (op : Operation)
    (orderly : op.Orderly (h.engine.desk op.target) (h.Knows op.target))
    (room : count + op.counts.toNat ≤ maxWord64) :
    (h.perform op).Attentive
      (fun name ticket => heard name ticket ++ (op.eventFor? name ticket).toList)
      (count + op.counts.toNat) := by
  refine ⟨fun name => ?_, ?_⟩
  · have known : (h.perform op).Knows name = fun ticket => h.Knows name ticket ∨
        (op.target = name ∧
          (h.engine.perform (op.numbered (h.begun.length + 1))).answer = .ticket ticket) := by
      funext ticket
      exact propext knows_perform
    rw [known]
    -- what is heard grows at one desk, and only there a ticket can be new
    by_cases here : name = op.target
    · subst here
      have deed := perform_deed h.engine (op.numbered (h.begun.length + 1))
      have listens := deed.listens (by simpa using orderly) (by simpa using room) (a.listens _)
      show ((h.engine.perform (op.numbered (h.begun.length + 1))).engine.desk
        op.target).Listens _ _ _
      simpa using listens
    · have same : (h.perform op).engine.desk name = h.engine.desk name :=
        perform_desk_of_ne _ _ (by simpa using here)
      rw [same]
      have listens := (a.listens name).mono (Nat.le_add_right count op.counts.toNat)
      simpa [Operation.eventFor?_of_ne op here, Ne.symm here] using listens
  · simp only [History.perform, List.map_append, List.nodup_append]
    refine ⟨a.apart, ?_, ?_⟩
    · cases begunTurn? (op.numbered (h.begun.length + 1))
        (h.engine.perform (op.numbered (h.begun.length + 1))).answer <;> simp
    · intro old mem new mem' same
      obtain ⟨turn, begun, rfl⟩ := List.mem_map.1 mem'
      obtain ⟨target, answered⟩ := eq_of_begunTurn?_eq_some (Option.mem_toList.1 begun)
      obtain ⟨turn', begun', rfl⟩ := List.mem_map.1 mem
      refine a.fresh (by simpa using room) answered ⟨turn', begun', ?_⟩
      rw [target]
      exact Prod.mk.injEq .. ▸ same

/-- The response that is sent is all content that came for the turn, the last event being idle. -/
theorem response_sent (a : h.Attentive heard count) (kept : h.Kept) {op : Operation}
    (orderly : op.Orderly (h.engine.desk op.target) (h.Knows op.target)) {number : Nat}
    {response : String}
    (sent : ⟨number, .completed response⟩ ∈ (h.engine.perform op).signals) :
    ∃ turn ∈ h.begun, turn.number = number ∧
      op.eventFor? turn.session turn.ticket = some .idle ∧
      response = textOf (heard turn.session turn.ticket) ∧
      ∀ event ∈ heard turn.session turn.ticket, event.isTerminal = false := by
  obtain ⟨turn, unresolved, same, cancelled | concludes⟩ := kept.signal_of_unresolved sent
  · cases cancelled
  have begun : turn ∈ h.begun := (mem_unresolved.1 unresolved).1
  refine ⟨turn, begun, same, ?_⟩
  cases op with
  | apply name ticket event now =>
    obtain ⟨rfl, rfl⟩ := concludes
    obtain ⟨rfl, s, found, busy, current, rfl⟩ := (perform_deed h.engine _).response_eq sent
    have collected := (a.listens turn.session).collected s found busy
    rw [current] at collected
    -- the event has passed the guard, so the response is that of the turn with its ticket
    obtain ⟨all, goesOn⟩ := collected ⟨turn, begun, rfl, rfl⟩
    exact ⟨if_pos ⟨rfl, rfl⟩, all, goesOn⟩
  | complete => exact orderly.elim
  | _ => exact concludes.elim

end Attentive

/-- A response that was sent is all content that came for its turn before the first idle event. -/
def Told (h : History) (heard : String → Nat → List StreamEvent) : Prop :=
  ∀ number response, ⟨number, .completed response⟩ ∈ h.sent →
    ∃ turn ∈ h.begun, turn.number = number ∧
      ∃ events rest, heard turn.session turn.ticket = events ++ .idle :: rest ∧
        response = textOf events ∧ ∀ event ∈ events, event.isTerminal = false

/-- The history of an orderly run: everything sent is accounted for, and so is every response. -/
structure Faithful (h : History) (heard : String → Nat → List StreamEvent) (count : Nat) :
    Prop where
  kept : h.Kept
  attentive : h.Attentive heard count
  told : h.Told heard

namespace Faithful

variable {h : History} {heard : String → Nat → List StreamEvent} {count : Nat}

/-- No response has been sent at the start. -/
theorem start : Faithful .start (fun _ _ => []) 0 where
  kept := .start
  attentive := .start
  told := by
    intro number response sent
    cases sent

/-- Every orderly operation keeps a history faithful. -/
theorem perform (f : h.Faithful heard count) (op : Operation)
    (orderly : op.Orderly (h.engine.desk op.target) (h.Knows op.target))
    (room : count + op.counts.toNat ≤ maxWord64) :
    (h.perform op).Faithful
      (fun name ticket => heard name ticket ++ (op.eventFor? name ticket).toList)
      (count + op.counts.toNat) := by
  refine ⟨f.kept.perform op, f.attentive.perform op orderly room, fun number response sent => ?_⟩
  rcases List.mem_append.1 sent with old | new
  · -- what comes after the first idle event does not change what was told
    obtain ⟨turn, begun, same, events, rest, split, told⟩ := f.told number response old
    refine ⟨turn, List.mem_append_left _ begun, same, events,
      rest ++ (op.eventFor? turn.session turn.ticket).toList, ?_, told⟩
    rw [split, List.append_assoc]
    rfl
  · obtain ⟨turn, begun, same, idle, told⟩ :=
      f.attentive.response_sent f.kept (by simpa using orderly) new
    rw [Operation.eventFor?_numbered] at idle
    refine ⟨turn, List.mem_append_left _ begun, same, _, [], ?_, told⟩
    rw [idle]
    rfl

end Faithful

/-- Sessions last: where a turn is known there is a session, or it was closed. -/
def Lasting (h : History) (closed : String → Prop) : Prop :=
  ∀ name ticket, h.Knows name ticket → (∃ s, h.engine.session? name = some s) ∨ closed name

namespace Lasting

variable {h : History} {closed : String → Prop}

/-- Only closing a session takes it away. -/
theorem perform (l : h.Lasting closed) (op : Operation) :
    (h.perform op).Lasting fun name =>
      closed name ∨ op = .close name ∧ ∃ s, (h.engine.close name).answer = .ok s := by
  intro name ticket known
  have deed := perform_deed h.engine (op.numbered (h.begun.length + 1))
  rw [Operation.target_numbered] at deed
  rcases knows_perform.1 known with old | ⟨rfl, answered⟩
  -- only the close that answers a session takes one away; every other deed keeps it
  · rcases l name ticket old with ⟨s, found⟩ | gone
    · by_cases closes : op = .close name
      · exact .inr (.inr ⟨closes, s, by simp [close, found]⟩)
      · left
        by_cases here : name = op.target
        · have stays : ∀ other, op.numbered (h.begun.length + 1) ≠ .close other := by
            intro other same
            have same' : op = .close other := by cases op <;> simp_all [Operation.numbered]
            subst same'
            exact closes (congrArg Operation.close here.symm)
          rw [← here] at deed
          obtain ⟨s', found', -⟩ := deed.session_kept stays found
          exact ⟨s', found'⟩
        · have same : (h.perform op).engine.desk name = h.engine.desk name :=
            perform_desk_of_ne _ _ (by simpa using here)
          exact ⟨s, (congrArg Desk.session same).trans found⟩
    · exact .inr (.inl gone)
  · rw [answered] at deed
    obtain ⟨-, s, -, found, -⟩ := deed.ticket_eq
    exact .inl ⟨s, found⟩

/-- Turns last as well with more sessions closed. -/
theorem mono (l : h.Lasting closed) {closed' : String → Prop}
    (more : ∀ name, closed name → closed' name) : h.Lasting closed' :=
  fun name ticket known => (l name ticket known).imp id (more name)

end Lasting

/-- A faithful history in which names are only used again after a close. -/
structure Sound (h : History) (heard : String → Nat → List StreamEvent) (closed : String → Prop)
    (count : Nat) : Prop where
  faithful : h.Faithful heard count
  lasting : h.Lasting closed

namespace Sound

variable {h : History} {heard : String → Nat → List StreamEvent} {closed : String → Prop}
  {count : Nat}

/-- All is sound at the start. -/
theorem start (closed : String → Prop) : Sound .start (fun _ _ => []) closed 0 where
  faithful := .start
  lasting := by
    rintro name ticket ⟨turn, begun, -⟩
    cases begun

/-- More names may be taken for closed, and more generations counted. -/
theorem mono (s : h.Sound heard closed count) {closed' : String → Prop} {count' : Nat}
    (more : ∀ name, closed name → closed' name) (le : count ≤ count') :
    h.Sound heard closed' count' where
  faithful := ⟨s.faithful.kept, ⟨fun name => (s.faithful.attentive.listens name).mono le,
    s.faithful.attentive.apart⟩, s.faithful.told⟩
  lasting := s.lasting.mono more

/-- Orderly operations that close no session keep a history sound. -/
theorem perform (s : h.Sound heard closed count) (op : Operation)
    (orderly : op.Orderly (h.engine.desk op.target) (h.Knows op.target))
    (stays : ∀ name, op ≠ .close name) (room : count + op.counts.toNat ≤ maxWord64) :
    (h.perform op).Sound
      (fun name ticket => heard name ticket ++ (op.eventFor? name ticket).toList) closed
      (count + op.counts.toNat) where
  faithful := s.faithful.perform op orderly room
  lasting := (s.lasting.perform op).mono fun name closes =>
    closes.elim id fun closes => absurd closes.1 (stays name)

/-- A session may be added under a name that was never closed. -/
theorem add (s : h.Sound heard closed count) (room : count ≤ maxWord64) {t : Session}
    (fresh : ¬ closed t.name) (now : Timestamp) :
    (h.perform (.create t)).Sound heard closed count ∧
      (h.perform (.restore t now)).Sound heard closed count := by
  -- a name whose tickets are known has a session or was closed
  have unknown : h.engine.session? t.name = none → ∀ ticket, ¬ h.Knows t.name ticket := by
    intro absent ticket known
    rcases s.lasting t.name ticket known with ⟨t', found⟩ | gone
    · rw [absent] at found
      cases found
    · exact fresh gone
  constructor
  · have created := s.perform (.create t) unknown (by simp) room
    simpa [Operation.eventFor?, Operation.counts] using created
  · have restored := s.perform (.restore t now) unknown (by simp) room
    simpa [Operation.eventFor?, Operation.counts] using restored

/-- Closing a session is noted. -/
theorem close (s : h.Sound heard closed count) (room : count ≤ maxWord64) (session : String) :
    (h.perform (.close session)).Sound heard
      (fun name => closed name ∨ name = session ∧ ∃ t, (h.engine.close session).answer = .ok t)
      count where
  faithful := by
    have closes := s.faithful.perform (.close session) trivial room
    simpa [Operation.eventFor?, Operation.counts] using closes
  lasting := (s.lasting.perform (.close session)).mono fun name closes => by
    rcases closes with gone | ⟨same, closes⟩
    · exact .inl gone
    · cases same
      exact .inr ⟨rfl, closes⟩

/-- Operations that neither add nor close a session nor come for a turn keep a history sound. -/
theorem performAll (s : h.Sound heard closed count) {ops : List Operation}
    (plain : ∀ op ∈ ops, op.isPlain = true) (room : count + ops.countP (·.counts) ≤ maxWord64) :
    (h.performAll ops).Sound heard closed (count + ops.countP (·.counts)) := by
  induction ops generalizing h count with
  | nil => exact s
  | cons op rest ih =>
    -- the room of the run is that of its first operation and of the rest
    have total : count + (op :: rest).countP (·.counts) =
        count + op.counts.toNat + rest.countP (·.counts) := by
      rw [List.countP_cons]
      cases op.counts with
      | false => simp
      | true => simp; omega
    rw [total] at room ⊢
    refine ih ?_ (fun op mem => plain op (List.mem_cons_of_mem _ mem)) room
    have isPlain := plain op List.mem_cons_self
    have performed := s.perform op (Operation.orderly_of_isPlain isPlain _ _)
      (Operation.ne_close_of_isPlain isPlain) (by omega)
    simpa [Operation.eventFor?_of_isPlain isPlain] using performed

end Sound

end History

end Engine

end Ensemble
