import Ensemble.Proofs.Turn.Reachable
import Ensemble.Proofs.Turn.Stream
import Ensemble.Watchdog
import Mathlib.Data.List.Induction

/-!
# Resumed turns

The flag of a resumed turn is raised when a session is restored in the midst of a turn, and lowered
when the session is left idle.  Beginning a turn does neither.  On an idle session the flag is down
as it is, but a turn that is begun over an open one finds the flag as the open one had it.

So the flag is raised exactly while the session has been at work ever since it was restored
(`isResumed_iff`).  As long as no turn overlaps another, the open turn is then the one that was
open when the session was restored.  But a turn that is begun over that one has the flag, too, and
with it the tool timeout, although it was not open before the restart
(`resumed_iff_at_work_since_restore`, `overlapping_turn_resumed`).
-/

namespace Ensemble

namespace Session

/-- No tool has been started in the open turn. -/
structure NoTools (s : Session) : Prop where
  active : s.activeTools = 0
  used : s.usedTools = false

/-- What a session that takes in an event keeps of what decides about its timeout: the flag of a
resumed turn for as long as it is at work, and being without tools until one is started. -/
structure Follows (s : Session) (event? : Option StreamEvent) (s' : Session) : Prop where
  resumed : s'.isResumed = (s.isResumed && s'.isProcessing)
  noTools : s.NoTools → (∀ tool, event? ≠ some (.toolStarted tool)) → s'.NoTools

variable {s s' : Session} {event? : Option StreamEvent}

/-- A session follows itself if its flag is raised only at work. -/
theorem Follows.refl (atWork : s.isResumed = true → s.isProcessing = true) :
    s.Follows event? s where
  resumed := by
    cases resumed : s.isResumed with
    | false => rfl
    | true => rw [atWork resumed, Bool.and_true]
  noTools := fun noTools _ => noTools

/-- A session that is left idle follows if its flag is lowered and no tools are left to it. -/
theorem Follows.of_idle (lowered : s'.isResumed = false) (idle : s'.isProcessing = false)
    (noTools : s.NoTools → s'.NoTools) : s.Follows event? s' where
  resumed := by rw [lowered, idle, Bool.and_false]
  noTools := fun before _ => noTools before

/-- After a step the flag is raised only at work. -/
theorem Follows.atWork (follows : s.Follows event? s') (resumed : s'.isResumed = true) :
    s'.isProcessing = true := by
  rw [follows.resumed, Bool.and_eq_true] at resumed
  exact resumed.2

/-- Flushing reasoning does not touch whether the session is resumed. -/
@[simp] theorem flushReasoning_isResumed (now : Timestamp) :
    (s.flushReasoning now).isResumed = s.isResumed := by rw [flushReasoning_eq]

/-- Flushing does not touch whether the session is resumed. -/
@[simp] theorem flush_isResumed (now : Timestamp) : (s.flush now).isResumed = s.isResumed := by
  rw [flush_eq]

/-- A turn that begins does not touch whether the session is resumed. -/
@[simp] theorem beginTurn_isResumed (prompt : String) (suppressPrompt : Bool)
    (startedAt now : Timestamp) :
    (s.beginTurn now prompt suppressPrompt startedAt).isResumed = s.isResumed := by
  cases suppressPrompt <;> rfl

/-- Events do not touch whether the session is resumed. -/
@[simp] theorem absorb_isResumed (event : StreamEvent) (now : Timestamp) :
    (Engine.absorb s event now).isResumed = s.isResumed := by
  cases event with
  | content chunk => simp [Engine.absorb, appendContent]
  | toolStarted tool => simp [Engine.absorb, toolStarted, push]
  | idle => simp [Engine.absorb]
  | _ => rfl

/-- A session that is restored is resumed if it was at work. -/
@[simp] theorem resume_isResumed (now : Timestamp) :
    (s.resume now).isResumed = s.isProcessing := by
  unfold resume
  split
  next busy => exact busy.symm
  next idle => exact (eq_false_of_ne_true idle).symm

/-- A turn starts without tools. -/
theorem beginTurn_noTools (prompt : String) (suppressPrompt : Bool) (startedAt now : Timestamp) :
    (s.beginTurn now prompt suppressPrompt startedAt).NoTools :=
  ⟨rfl, rfl⟩

/-- No tools are in use once a turn has ended. -/
theorem endTurn_noTools (outcome : Outcome) (now : Timestamp) : (s.endTurn now outcome).NoTools :=
  ⟨rfl, rfl⟩

/-- No tools are in use once a session is stopped. -/
theorem stop_noTools (now : Timestamp) : (s.stop now).NoTools :=
  ⟨rfl, rfl⟩

/-- Of all events, only the start of a tool brings tools into a turn. -/
theorem NoTools.absorb (noTools : s.NoTools) {event : StreamEvent}
    (other : ∀ tool, event ≠ .toolStarted tool) (now : Timestamp) :
    (Engine.absorb s event now).NoTools := by
  cases event with
  | content chunk =>
    refine ⟨?_, ?_⟩ <;> rw [Engine.absorb, appendContent, flushReasoning_eq]
    · exact noTools.active
    · exact noTools.used
  | reasoning chunk | fault message => exact ⟨noTools.active, noTools.used⟩
  | toolStarted tool => exact absurd rfl (other tool)
  | toolFinished tool output =>
    -- there is no tool left to finish
    have fewer : s.activeTools - 1 = 0 := by rw [noTools.active]
    exact ⟨fewer, noTools.used⟩
  | idle =>
    refine ⟨?_, ?_⟩ <;> rw [Engine.absorb, flush_eq]
    · exact noTools.active
    · exact noTools.used

end Session

namespace Watchdog

/-- Without tools, the flag of a resumed turn and the group decide about the timeout. -/
theorem timeout_of_noTools {s : Session} (noTools : s.NoTools) (settings : WatchdogSettings)
    (isMultiAgent : Bool) :
    timeout settings s isMultiAgent =
      .ofSeconds (if s.isResumed || isMultiAgent then settings.toolTimeout
        else settings.inactivityTimeout) := by
  rw [timeout, usesToolTimeout, noTools.active, noTools.used, apply_ite Span.ofSeconds]
  simp

end Watchdog

namespace Engine

variable {e : Engine} {name : String}

/-- Whether a turn is open is a matter of the session. -/
theorem isProcessing_of_session? {s : Session} (found : e.session? name = some s) :
    e.isProcessing name = s.isProcessing := by
  rw [isProcessing, found]

/-! ## One step -/

/-- Every deed that leaves a session takes it on. -/
theorem Deed.follows {op : Operation} {d d' : Desk} {answer : Answer} {signals : List Signal}
    (deed : Deed op d answer d' signals) {s s' : Session}
    (atWork : s.isResumed = true → s.isProcessing = true) (found : d.session = some s)
    (found' : d'.session = some s') : s.Follows (eventTaken? op.target op answer) s' := by
  cases deed with
  | refused | ignored | unmoved | abortedIdle | tookNothing =>
    obtain rfl : s = s' := Option.some.inj (found.symm.trans found')
    exact .refl atWork
  | created | restored | closedNothing | abortedNothing => cases found
  | closed => cases found'
  | advanced | enqueued | taken | noticed | remodelled =>
    cases found
    cases found'
    have same : s.Follows none s := .refl atWork
    exact ⟨same.resumed, fun noTools _ => ⟨noTools.active, noTools.used⟩⟩
  -- Beginning a turn leaves the mark of a resumed one as it is.
  | begun =>
    cases found
    cases found'
    exact ⟨by simp, fun _ _ => Session.beginTurn_noTools _ _ _ _⟩
  | @absorbed _ event _ _ _ busy =>
    cases found
    cases found'
    refine ⟨by simp [busy], fun noTools other => noTools.absorb (fun tool same => ?_) _⟩
    rw [Operation.target, eventTaken?_apply, if_neg (by simp), same] at other
    exact other tool rfl
  | ended | completed =>
    cases found'
    exact .of_idle rfl (Session.endTurn_isProcessing _ _ _)
      fun _ => Session.endTurn_noTools _ _
  | aborted | recovered =>
    cases found'
    exact .of_idle rfl rfl fun _ => Session.stop_noTools _
  | recoveredIdle idle =>
    cases found
    cases found'
    exact .of_idle rfl idle fun noTools => ⟨noTools.active, noTools.used⟩

/-- Unless it is closed, an operation takes a session on, whichever session it names. -/
theorem exists_follows {op : Operation} (stays : op ≠ .close name) {s : Session}
    (found : e.session? name = some s) (atWork : s.isResumed = true → s.isProcessing = true) :
    ∃ s', (e.perform op).engine.session? name = some s' ∧
      s.Follows (eventTaken? name op (e.perform op).answer) s' := by
  by_cases here : name = op.target
  · subst here
    have deed := perform_deed e op
    have stays' : ∀ other, op ≠ .close other := by
      rintro other rfl
      exact stays rfl
    obtain ⟨s', found', -⟩ := deed.session_kept stays' found
    exact ⟨s', found', deed.follows atWork found found'⟩
  · exact ⟨s, (session?_perform_of_ne e here).trans found, .refl atWork⟩

/-! ## Runs -/

/-- Whether a session is at work before and after every operation of a run. -/
def atWorkThroughout (name : String) : Engine → List Operation → Bool
  | e, [] => e.isProcessing name
  | e, op :: rest => e.isProcessing name && atWorkThroughout name (e.perform op).engine rest

/-- Whoever is at work throughout is at work at the start. -/
theorem isProcessing_of_atWorkThroughout {ops : List Operation}
    (h : atWorkThroughout name e ops = true) : e.isProcessing name = true := by
  cases ops with
  | nil => exact h
  | cons op rest => exact (Bool.and_eq_true_iff.1 h).1

/-- Being at work throughout one more operation takes being at work after it. -/
theorem atWorkThroughout_append_singleton (ops : List Operation) (op : Operation) :
    atWorkThroughout name e (ops ++ [op]) =
      (atWorkThroughout name e ops && (e.after (ops ++ [op])).isProcessing name) := by
  induction ops generalizing e with
  | nil => rfl
  | cons first rest ih =>
    simp only [List.cons_append, atWorkThroughout, after_cons, ih, Bool.and_assoc]

/-- A session that is at work throughout is at work in the end. -/
theorem isProcessing_after_of_atWorkThroughout {ops : List Operation}
    (h : atWorkThroughout name e ops = true) : (e.after ops).isProcessing name = true := by
  cases ops using List.reverseRecOn with
  | nil => exact h
  | append_singleton ops op =>
    rw [atWorkThroughout_append_singleton] at h
    exact (Bool.and_eq_true_iff.1 h).2

/-- Over a run that does not close it, a session keeps its flag for as long as it is at work, and is
without tools until one is started. -/
theorem exists_after_follows {ops : List Operation} (stays : Operation.close name ∉ ops)
    {s : Session} (found : e.session? name = some s)
    (atWork : s.isResumed = true → s.isProcessing = true) :
    ∃ t, (e.after ops).session? name = some t ∧
      t.isResumed = (s.isResumed && atWorkThroughout name e ops) ∧
      (s.NoTools → (∀ tool, .toolStarted tool ∉ eventsTaken name e ops) → t.NoTools) := by
  induction ops generalizing e s with
  | nil =>
    have same : s.Follows none s := .refl atWork
    refine ⟨s, found, ?_, fun noTools _ => noTools⟩
    rw [atWorkThroughout, isProcessing_of_session? found, ← same.resumed]
  | cons op rest ih =>
    obtain ⟨s', found', follows⟩ :=
      exists_follows (fun same => stays (same ▸ List.mem_cons_self)) found atWork
    obtain ⟨t, there, resumed, noTools⟩ :=
      ih (fun mem => stays (List.mem_cons_of_mem op mem)) found' follows.atWork
    refine ⟨t, there, ?_, fun before quiet => ?_⟩
    · -- the rest of the run starts with the session as this operation leaves it
      have throughout : atWorkThroughout name (e.perform op).engine rest = true →
          s'.isProcessing = true := fun h => by
        rw [← isProcessing_of_session? found', isProcessing_of_atWorkThroughout h]
      rw [resumed, follows.resumed, atWorkThroughout, isProcessing_of_session? found,
        Bool.eq_iff_iff]
      simp only [Bool.and_eq_true]
      exact ⟨fun ⟨⟨was, _⟩, later⟩ => ⟨was, atWork was, later⟩,
        fun ⟨was, _, later⟩ => ⟨⟨was, throughout later⟩, later⟩⟩
    · simp only [eventsTaken, List.mem_append, Option.mem_toList, not_or] at quiet
      refine noTools (follows.noTools before fun tool => (quiet tool).1) fun tool => (quiet tool).2

/-! ## Sessions that were restored at work -/

/-- The last operation of a run restores the session of a name in the midst of a turn. -/
def RestoresAtWork (name : String) (ops : List Operation) : Prop :=
  ∃ before s now, ops = before ++ [.restore s now] ∧ s.name = name ∧ s.isProcessing = true ∧
    ((empty.after before).perform (.restore s now)).answer = .done

/-- A run restores the session of a name in the midst of a turn and does not leave it idle from then
on. -/
def AtWorkSinceRestore (name : String) (ops : List Operation) : Prop :=
  ∃ before during, ops = before ++ during ∧ RestoresAtWork name before ∧
    atWorkThroughout name (empty.after before) during = true

/-- A run restores the session of a name in the midst of a turn and begins no other turn of it from
then on. -/
def NoTurnSinceRestore (name : String) (ops : List Operation) : Prop :=
  ∃ before during, ops = before ++ during ∧ RestoresAtWork name before ∧
    tickets name (empty.after before) during = []

variable {ops : List Operation} {op : Operation}

/-- A session is not restored under a name that is taken. -/
theorem not_restoresAtWork_of_some {s : Session}
    (taken : (empty.after ops).session? name = some s) :
    ¬ RestoresAtWork name (ops ++ [op]) := by
  rintro ⟨before, source, now, same, rfl, -, done⟩
  obtain ⟨rfl, restores⟩ := List.append_inj' same rfl
  cases restores
  rw [perform, restore_of_some taken] at done
  cases done

/-- A session is restored by an operation that names it. -/
theorem not_restoresAtWork_of_ne (other : name ≠ op.target) :
    ¬ RestoresAtWork name (ops ++ [op]) := by
  rintro ⟨before, source, now, same, rfl, -⟩
  obtain ⟨rfl, restores⟩ := List.append_inj' same rfl
  cases restores
  exact other rfl

/-- Under a name without a session, it only matters whether what is restored was at work. -/
theorem restoresAtWork_restore {s : Session}
    (absent : (empty.after ops).session? s.name = none) (now : Timestamp) :
    RestoresAtWork s.name (ops ++ [.restore s now]) ↔ s.isProcessing = true := by
  constructor
  · rintro ⟨before, source, now, same, -, busy, -⟩
    cases (List.append_inj' same rfl).2
    exact busy
  · intro busy
    refine ⟨ops, s, now, rfl, rfl, busy, ?_⟩
    rw [perform, restore_of_none absent]
    rfl

/-- A session that is restored at work is at work then. -/
theorem isProcessing_of_restoresAtWork (restores : RestoresAtWork name ops) :
    (empty.after ops).isProcessing name = true := by
  obtain ⟨before, s, now, rfl, rfl, busy, done⟩ := restores
  cases h : (empty.after before).session? s.name with
  | some old =>
    rw [perform, restore_of_some h] at done
    cases done
  | none =>
    have found : (empty.after (before ++ [.restore s now])).session? s.name =
        some (s.resume now) := by
      rw [after_append, after_cons, after_nil, perform, restore_of_none h]
      simp [Step.map]
    rw [isProcessing_of_session? found, Session.resume_isProcessing, busy]

/-- With one more operation, a session has been at work since its restoring if that operation
restores it, or if it was so before and is at work still. -/
theorem atWorkSinceRestore_append_singleton :
    AtWorkSinceRestore name (ops ++ [op]) ↔
      RestoresAtWork name (ops ++ [op]) ∨
        (AtWorkSinceRestore name ops ∧ (empty.after (ops ++ [op])).isProcessing name = true) := by
  constructor
  · rintro ⟨before, during, same, restores, throughout⟩
    -- The last operation is the restore itself, or it comes after it.
    cases during using List.reverseRecOn with
    | nil =>
      rw [List.append_nil] at same
      exact .inl (same ▸ restores)
    | append_singleton during last =>
      rw [← List.append_assoc] at same
      obtain ⟨rfl, same'⟩ := List.append_inj' same rfl
      cases same'
      rw [atWorkThroughout_append_singleton, Bool.and_eq_true, ← after_append,
        ← List.append_assoc] at throughout
      exact .inr ⟨⟨before, during, rfl, restores, throughout.1⟩, throughout.2⟩
  · rintro (restores | ⟨⟨before, during, rfl, restores, throughout⟩, still⟩)
    · exact ⟨ops ++ [op], [], (List.append_nil _).symm, restores,
        isProcessing_of_restoresAtWork restores⟩
    · refine ⟨before, during ++ [op], List.append_assoc .., restores, ?_⟩
      rw [atWorkThroughout_append_singleton, throughout, ← after_append, ← List.append_assoc, still]
      rfl

/-- A session that has been at work since it was restored is at work. -/
theorem AtWorkSinceRestore.isProcessing (h : AtWorkSinceRestore name ops) :
    (empty.after ops).isProcessing name = true := by
  obtain ⟨before, during, rfl, -, throughout⟩ := h
  rw [after_append]
  exact isProcessing_after_of_atWorkThroughout throughout

/-- The flag of a resumed turn is raised exactly while the session has been at work ever since it
was restored in the midst of a turn. -/
theorem isResumed_iff (new : ∀ s, Operation.create s ∈ ops → s.isResumed = false) {s : Session}
    (found : (empty.after ops).session? name = some s) :
    s.isResumed = true ↔ AtWorkSinceRestore name ops := by
  induction ops using List.reverseRecOn generalizing s with
  | nil => cases found
  | append_singleton ops op ih =>
    have ih {s₀ : Session} := @ih (fun s mem => new s (List.mem_append_left _ mem)) s₀
    have now := isProcessing_of_session? found
    rw [after_append, after_cons, after_nil] at found
    rw [atWorkSinceRestore_append_singleton, now]
    by_cases here : name = op.target
    · subst here
      have deed := perform_deed (empty.after ops) op
      cases before : (empty.after ops).session? op.target with
      | none =>
        -- where no session was, it has come with this operation
        have absent : ¬ AtWorkSinceRestore op.target ops := fun h => by
          have busy := h.isProcessing
          rw [Engine.isProcessing, before] at busy
          cases busy
        rw [or_iff_left fun h => absent h.1]
        rcases deed.brought before found with rfl | ⟨source, time, rfl, rfl⟩
        · rw [new s (List.mem_append_right _ List.mem_cons_self)]
          refine iff_of_false (by simp) ?_
          rintro ⟨_, _, _, same, -⟩
          cases (List.append_inj' same rfl).2
        · rw [Session.resume_isResumed]
          exact (restoresAtWork_restore before time).symm
      | some s₀ =>
        have atWork : s₀.isResumed = true → s₀.isProcessing = true := fun resumed => by
          rw [← isProcessing_of_session? before]
          exact ((ih before).1 resumed).isProcessing
        rw [or_iff_right (not_restoresAtWork_of_some before), ← ih before,
          (deed.follows atWork before found).resumed, Bool.and_eq_true]
    · rw [session?_perform_of_ne _ here] at found
      rw [or_iff_right (not_restoresAtWork_of_ne here), ← ih found]
      refine ⟨fun resumed => ⟨resumed, ?_⟩, And.left⟩
      rw [← isProcessing_of_session? found]
      exact ((ih found).1 resumed).isProcessing

/-! ## Turns that overlap -/

/-- Whether an operation begins a turn even if one is open. -/
def Operation.mayOverlap : Operation → Bool
  | .begin _ _ options _ _ _ => options.allowOverlap
  | _ => false

/-- Only a turn that may overlap is begun at work. -/
theorem Deed.mayOverlap_of_busy {ticket : Nat} {d d' : Desk} {signals : List Signal}
    (deed : Deed op d (.ticket ticket) d' signals) {s : Session} (found : d.session = some s)
    (busy : s.isProcessing = true) : op.mayOverlap = true := by
  cases deed with
  | begun free =>
    cases found
    rw [busy] at free
    exact free.resolve_left (by simp)

/-- Where no turn may overlap another, none is begun at work. -/
theorem tickets_eq_nil_of_atWork (throughout : atWorkThroughout name e ops = true)
    (alone : ∀ op ∈ ops, op.mayOverlap = false) : tickets name e ops = [] := by
  induction ops generalizing e with
  | nil => rfl
  | cons op rest ih =>
    rw [atWorkThroughout, Bool.and_eq_true] at throughout
    have later := ih throughout.2 fun op mem => alone op (List.mem_cons_of_mem _ mem)
    rw [tickets, later, List.append_nil, Option.toList_eq_nil_iff,
      Option.eq_none_iff_forall_ne_some]
    intro ticket given
    obtain ⟨rfl, answered⟩ := ticketGiven?_eq_some.1 given
    have deed := perform_deed e op
    rw [answered] at deed
    obtain ⟨s, _, found, -⟩ := deed.ticket_eq
    -- A busy session gives out a ticket only to a turn that may overlap.
    have busy : s.isProcessing = true := by
      rw [← isProcessing_of_session? found, throughout.1]
    have overlaps := deed.mayOverlap_of_busy found busy
    rw [alone op List.mem_cons_self] at overlaps
    cases overlaps

/--
In every state that a run reaches, a session is resumed exactly if it was restored in the midst of a
turn and has been at work ever since; if no turn of the run may overlap another, the turn that was
open then is open still.  A turn that is begun is resumed only if it overlaps a resumed one, and
then as long as the session is at work.  Before it starts a tool, it has the inactivity timeout
unless it is resumed or its session works in a multi-agent group.
-/
theorem resumed_iff_at_work_since_restore (ops : List Operation)
    (new : ∀ s, Operation.create s ∈ ops → s.isResumed = false) {name : String} {s : Session}
    (found : (empty.after ops).session? name = some s) :
    (s.isResumed = true ↔ AtWorkSinceRestore name ops) ∧
      (s.isResumed = true → (∀ op ∈ ops, op.mayOverlap = false) → NoTurnSinceRestore name ops) ∧
      ∀ prompt options number startedAt now ticket later,
        let begun := (empty.after ops).perform (.begin name prompt options number startedAt now)
        begun.answer = .ticket ticket → Operation.close name ∉ later →
        (s.isResumed = true → options.allowOverlap = true) ∧
          ∃ t, (begun.engine.after later).session? name = some t ∧
            (t.isResumed = true ↔
              s.isResumed = true ∧ atWorkThroughout name begun.engine later = true) ∧
            ((∀ tool, .toolStarted tool ∉ eventsTaken name begun.engine later) →
              ∀ settings isMultiAgent, Watchdog.timeout settings t isMultiAgent =
                .ofSeconds (if t.isResumed || isMultiAgent then settings.toolTimeout
                  else settings.inactivityTimeout)) := by
  have since := isResumed_iff new found
  refine ⟨since, fun resumed alone => ?_, ?_⟩
  · obtain ⟨before, during, rfl, restores, throughout⟩ := since.1 resumed
    refine ⟨before, during, rfl, restores, tickets_eq_nil_of_atWork throughout fun op mem => ?_⟩
    exact alone op (List.mem_append_right _ mem)
  · intro prompt options number startedAt now ticket later begun answered stays
    have atWork (resumed : s.isResumed = true) : s.isProcessing = true := by
      rw [← isProcessing_of_session? found]
      exact (since.1 resumed).isProcessing
    have deed := perform_deed (empty.after ops) (.begin name prompt options number startedAt now)
    rw [show ((empty.after ops).perform _).answer = .ticket ticket from answered] at deed
    -- a session that is resumed has a turn open, so another turn begins only over that
    refine ⟨fun resumed => deed.mayOverlap_of_busy found (atWork resumed), ?_⟩
    obtain ⟨s₀, found₀, started⟩ := deed.begun_session
    obtain rfl : s = s₀ := Option.some.inj (found.symm.trans found₀)
    obtain ⟨t, there, resumed, noTools⟩ := exists_after_follows stays started fun _ => rfl
    rw [Session.beginTurn_isResumed] at resumed
    refine ⟨t, there, by rw [resumed, Bool.and_eq_true], fun quiet => ?_⟩
    exact Watchdog.timeout_of_noTools (noTools (Session.beginTurn_noTools _ _ _ _) quiet)

/-- A session that is restored in the midst of a turn is aborted.  Its next turn is not resumed and
has the inactivity timeout. -/
theorem turn_after_abort_not_resumed :
    let now : Timestamp := ⟨0, 0⟩
    let held := (Session.fresh "a" "m" now).beginTurn now "go" false now
    let ops := [Operation.restore held now, .abort "a" now]
    let begun := (empty.after ops).perform (.begin "a" "again" ⟨false, false⟩ 1 now now)
    let later := [Operation.apply "a" 3 (.content "hi") now]
    held.isProcessing = true ∧ begun.answer = .ticket 3 ∧
      ∃ t, (begun.engine.after later).session? "a" = some t ∧ t.isResumed = false ∧
        ∀ settings, Watchdog.timeout settings t false = .ofSeconds settings.inactivityTimeout := by
  intro now held ops begun later
  have new : ∀ s, Operation.create s ∈ ops → s.isResumed = false := fun s mem => by
    simp [ops] at mem
  have found : (empty.after ops).session? "a" = some ((held.resume now).stop now) := by decide
  have answered : begun.answer = .ticket 3 := by decide
  have stays : Operation.close "a" ∉ later := by decide
  have quiet : ∀ tool, .toolStarted tool ∉ eventsTaken "a" begun.engine later := fun tool => by
    rw [show eventsTaken "a" begun.engine later = [.content "hi"] by decide]
    simp
  obtain ⟨-, t, there, resumed, timeouts⟩ :=
    (resumed_iff_at_work_since_restore ops new found).2.2 "again" ⟨false, false⟩ 1 now now 3 later
      answered stays
  have lowered : t.isResumed = false := by
    rw [← Bool.not_eq_true, resumed]
    exact fun both => by cases both.1
  refine ⟨rfl, answered, t, there, lowered, fun settings => ?_⟩
  rw [timeouts quiet settings false, lowered]
  rfl

/-- A turn is begun over one that was open before a restart.  It is resumed from its beginning, and
so it is not stuck when it has been silent for longer than the inactivity timeout. -/
theorem overlapping_turn_resumed :
    let now : Timestamp := ⟨0, 0⟩
    let held := (Session.fresh "a" "m" now).beginTurn now "go" false now
    let restored := (empty.perform (.restore held now)).engine
    let begun := restored.perform (.begin "a" "again" ⟨false, true⟩ 1 now now)
    let s := (held.resume now).beginTurn now "again" false now
    restored.isCurrent "a" 2 = true ∧ begun.answer = .ticket 3 ∧
      begun.engine.isCurrent "a" 3 = true ∧ begun.engine.session? "a" = some s ∧
      s.isResumed = true ∧ s.activeTools = 0 ∧ s.usedTools = false ∧
      Watchdog.timeout .default s false = .ofSeconds WatchdogSettings.default.toolTimeout ∧
      Watchdog.stuckTurn? .default ⟨200, 0⟩ [] s = none ∧
      Watchdog.stuckTurn? .default ⟨200, 0⟩ [] (s.setResumed false) =
        some ⟨"a", .ofSeconds 200, .ofSeconds 120⟩ := by
  decide

end Engine

end Ensemble
