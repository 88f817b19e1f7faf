import Ensemble.Application
import Ensemble.Proofs.Hub.Patrol
import Ensemble.Proofs.Session.Buffer
import Ensemble.Proofs.Simulation.Rest

/-!
# Restarts

The state of an application is saved, and an application that was just started restores it.  No
session is refused: the names that are listed are distinct, and there is nobody yet in the new hub
(`Simulation.restoreSessions_of_new`).  Idle sessions come back as they were, since no idle session
is marked as resumed (`Hub.unresumed_handleAll`).  A session in the midst of a turn comes back with
its turn opened anew.

What such a turn streamed last is still in the buffers of its session.  However a turn is closed, it
leaves in the transcript what was buffered (`Engine.Closes.transcript`).  But opening a turn anew
empties the buffers, and so the text that was saved in them does not survive a restart.
`restored_sessions` says exactly what does.
-/

namespace Ensemble

open Engine (Operation Answer)

/-! ## Sessions that are resumed -/

namespace Session

variable (now : Timestamp)

/-- An idle session that is not marked as resumed is restored as it was. -/
theorem resume_of_idle {s : Session} (idle : s.isProcessing = false)
    (unresumed : s.isResumed = false) : s.resume now = s := by
  rw [resume, idle, if_neg Bool.false_ne_true, setResumed, ← unresumed]

/-- A session in the midst of a turn is restored with the turn opened anew. -/
theorem resume_of_busy {s : Session} (busy : s.isProcessing = true) :
    s.resume now =
      { s with
        generation := s.nextTicket
        startedAt := some now
        activeTools := 0
        usedTools := false
        isResumed := true
        pendingContent := ""
        pendingReasoning := ""
        turnResponse := ""
        lastActive := now } := by
  rw [resume, if_pos busy, setResumed, openTurn, nextGeneration, ← busy]

end Session

/-! ## Closing a turn -/

namespace Engine

/-- The ways to close the turn that has a ticket, with the notices that closing it puts in front of
what is buffered and behind it. -/
inductive Closes (name : String) (ticket : Nat) (now : Timestamp) :
    Operation → List Entry → List Entry → Prop where
  | completed (outcome : Outcome) :
      Closes name ticket now (.complete name ticket outcome now) [] (outcome.notices now)
  | idle : Closes name ticket now (.apply name ticket .idle now) [] []
  | fault (message : String) :
      Closes name ticket now (.apply name ticket (.fault message) now) []
        ((Outcome.failed message).notices now)
  | aborted : Closes name ticket now (.abort name now) [] []
  | recovered (text : String) :
      Closes name ticket now (.recover name text now) [.ofRole .system text now] []

/-- The transcript of a session once an operation has been performed. -/
def transcriptAfter? (e : Engine) (op : Operation) (name : String) : Option (List Entry) :=
  ((e.perform op).engine.session? name).map (·.transcript)

/-- However a turn is closed, what was buffered is in the transcript. -/
theorem Closes.transcript {e : Engine} {name : String} {now : Timestamp} {s : Session}
    {op : Operation} {before after : List Entry}
    (closes : Closes name s.generation now op before after) (found : e.session? name = some s)
    (busy : s.isProcessing = true) :
    e.transcriptAfter? op name = some (s.transcript ++ before ++ s.buffered now ++ after) := by
  have active : (s.isProcessing || !s.queue.isEmpty || e.waiters.contains name) = true := by
    simp [busy]
  cases closes with
  | completed outcome =>
    obtain ⟨w, signals, -, completed⟩ := complete_of_current found busy outcome now
    simp [transcriptAfter?, perform, completed, Step.map, Session.endTurn_transcript]
  | idle =>
    have ends : outcomeOf? s .idle = some (.completed s.turnResponse) := rfl
    obtain ⟨w, signals, -, ended⟩ := apply_of_ended found busy ends now
    -- Going idle has flushed the buffers already, so ending the turn adds nothing more.
    have nothing : (absorb s .idle now).buffered now = [] := s.buffered_flush now now
    have flushed : (absorb s .idle now).transcript = s.transcript ++ s.buffered now :=
      s.flush_transcript_eq now
    simp [transcriptAfter?, perform, ended, Step.map, Session.endTurn_transcript, nothing, flushed,
      Outcome.notices]
  | fault message =>
    have ends : outcomeOf? s (.fault message) = some (.failed message) := rfl
    obtain ⟨w, signals, -, ended⟩ := apply_of_ended found busy ends now
    simp [transcriptAfter?, perform, ended, Step.map, Session.endTurn_transcript, absorb]
  | aborted =>
    simp [transcriptAfter?, perform, abort_of_active found active, Step.map,
      Session.stop_transcript]
  | recovered text =>
    have noticed :
        (s.notice text now).transcript = s.transcript ++ [.ofRole .system text now] := rfl
    have same : (s.notice text now).buffered now = s.buffered now := rfl
    simp [transcriptAfter?, perform, recover_of_active found active, Step.map,
      Session.stop_transcript, noticed, same]

/-- Two sessions have the same transcript and one of them has nothing buffered.  Closing their turns
alike leaves their transcripts the same if and only if the other has nothing buffered either. -/
theorem Closes.alike {e e' : Engine} {name : String} {now : Timestamp} {s s' : Session}
    {op op' : Operation} {before after : List Entry}
    (closes : Closes name s.generation now op before after)
    (closes' : Closes name s'.generation now op' before after)
    (found : e.session? name = some s) (busy : s.isProcessing = true)
    (found' : e'.session? name = some s') (busy' : s'.isProcessing = true)
    (same : s.transcript = s'.transcript) (nothing : s.buffered now = []) :
    e.transcriptAfter? op name = some (s'.transcript ++ before ++ after) ∧
      (e.transcriptAfter? op name = e'.transcriptAfter? op' name ↔ s'.buffered now = []) := by
  have closed := closes.transcript found busy
  rw [nothing, List.append_nil, same] at closed
  refine ⟨closed, ?_⟩
  rw [closed, closes'.transcript found' busy']
  simp

end Engine

/-! ## Idle sessions are not marked as resumed -/

/-- If there is an idle session, it is not marked as resumed. -/
def Desk.Unresumed (d : Desk) : Prop :=
  ∀ s, d.session = some s → s.isProcessing = false → s.isResumed = false

namespace Engine

theorem Deed.unresumed {now : Timestamp} {op : Operation} {d d' : Desk} {answer : Answer}
    {signals : List Signal} (deed : Deed op d answer d' signals) (work : op.IsWork now)
    (h : d.Unresumed) : d'.Unresumed := by
  cases deed with
  | refused | ignored | unmoved | abortedIdle | tookNothing => exact h
  | closed | closedNothing | abortedNothing =>
    intro s found
    cases found
  | begun => exact work.elim
  | created =>
    obtain ⟨model, new⟩ := work
    rintro s ⟨⟩ -
    rw [new]
    rfl
  | @restored s =>
    -- whatever the record said, a session that is restored idle is not marked
    rintro _ ⟨⟩ idle
    rw [Session.resume_isProcessing] at idle
    rw [Session.resume, idle]
    rfl
  | advanced | enqueued | taken | noticed | remodelled =>
    have unresumed := h _ rfl
    rintro s ⟨⟩ idle
    exact unresumed idle
  | absorbed busy =>
    rintro s ⟨⟩ idle
    rw [absorb_isProcessing, busy] at idle
    cases idle
  | ended | completed | aborted | recovered | recoveredIdle =>
    rintro s ⟨⟩ -
    rfl

end Engine

/-- In a hub that has handled messages, no idle session is marked as resumed. -/
theorem Hub.unresumed_handleAll (agents : Agents) (messages : List (HubMessage × Timestamp)) :
    ∀ name, (((start agents).handleAll messages).1.engine.desk name).Unresumed := by
  have run : Run (fun _ => True) (start agents) _ _ :=
    handleAll_run _ messages fun _ _ => trivial
  refine run.keeps (P := fun _ h => ∀ name, (h.engine.desk name).Unresumed)
    (fun name s found => by cases found) fun _ move unresumed => ?_
  refine move.keeps_desks (fun deed work h => deed.unresumed work h) ?_ unresumed
  rintro name s w prompt suppressPrompt next - _ ⟨⟩ idle
  cases idle

/-! ## Restoring a state -/

/-- A session that is not there yet is restored. -/
theorem Hub.handle_restore_of_none {h : Hub} {record : Session}
    (absent : h.session? record.name = none) (caller : Nat) (now : Timestamp) :
    h.handle (.request caller (.restore record)) now =
      ({ h with engine := h.engine.put record.name (record.resume now) },
        [(record.name, .created)].map Simulation.observation ++
          [.reply caller (.ok .done)]) := by
  have free : h.engine.sessions.contains record.name = false := by
    rw [Registry.contains, show h.engine.sessions.get? record.name = none from absent]
    rfl
  simp [Hub.handle, Hub.answer, Hub.announce, Hub.work, Engine.restore, free, Hub.drainedAfter?,
    Simulation.observation]

namespace Simulation

variable {s : Simulation}

/-- Sessions with distinct names that are not there yet are all restored, each at some time, and
nothing else is changed. -/
theorem restoreSessions_of_new {records : List Session} (rest : s.AtRest)
    (distinct : (records.map (·.name)).Nodup)
    (new : ∀ record ∈ records, s.hub.session? record.name = none) :
    (s.restoreSessions records).1 = [] ∧
      (s.restoreSessions records).2.organization = s.organization ∧
      (∀ name ∉ records.map (·.name),
        (s.restoreSessions records).2.hub.session? name = s.hub.session? name) ∧
      ∀ record ∈ records, ∃ now,
        (s.restoreSessions records).2.hub.session? record.name = some (record.resume now) := by
  induction records generalizing s with
  | nil => exact ⟨rfl, rfl, fun _ _ => rfl, fun _ mem => absurd mem List.not_mem_nil⟩
  | cons record others ih =>
    rw [List.map_cons, List.nodup_cons] at distinct
    obtain ⟨absent, new⟩ := List.forall_mem_cons.1 new
    have restored := rest.ask (s.hub.handle_restore_of_none absent (s.numbers + 1) s.tick.now)
    generalize answered : s.answered _ _ _ = next at restored
    have there (name : String) : next.hub.session? name =
        if name = record.name then some (record.resume s.tick.now) else s.hub.session? name := by
      rw [← answered]
      exact Registry.get?_insert ..
    -- the others are as new to the hub as they were before
    have elsewhere (name : String) (ne : name ≠ record.name) :
        next.hub.session? name = s.hub.session? name := (there name).trans (if_neg ne)
    obtain ⟨accepted, organization, others', restores⟩ :=
      ih (s := next) (answered ▸ rest.answered ..) distinct.2 fun other mem =>
        (elsewhere other.name fun same => distinct.1 (same ▸ List.mem_map_of_mem mem)).trans
          (new other mem)
    simp only [restoreSessions, restored]
    refine ⟨accepted, organization.trans (by rw [← answered]; rfl), fun name mem => ?_,
      List.forall_mem_cons.2 ⟨⟨s.tick.now, ?_⟩, restores⟩⟩
    · rw [List.map_cons, List.mem_cons, not_or] at mem
      exact (others' name mem.2).trans (elsewhere name mem.1)
    · exact (others' _ distinct.1).trans ((there _).trans (if_pos rfl))

/-- What is saved of a simulation at rest is its organization and the sessions of its hub. -/
theorem AtRest.savedState (rest : s.AtRest) :
    ∃ time after, after.hub = s.hub ∧
      s.savedState =
        (.ok (.create s.organization s.hub.engine.sessions.values time), after) := by
  have handled : s.hub.handle (.request (s.numbers + 1) .list) s.tick.now =
      (s.hub, [].map observation ++
        [.reply (s.numbers + 1) (.ok (.sessions s.hub.engine.sessions.values))]) := rfl
  refine ⟨s.tick.now, s.answered s.hub [] (.ok (.sessions s.hub.engine.sessions.values)), rfl, ?_⟩
  simp only [Simulation.savedState, rest.ask handled]
  rfl

end Simulation

/-- An application that was just started has a simulation at its start. -/
theorem Application.start_simulation {config : Config} {offered : Agents} {fresh : Nat → Id}
    {now : Timestamp} {app : Application} (started : start config offered fresh now = .ok app) :
    app.simulation = .start (config.agents offered) fresh now := by
  unfold start at started
  cases checked : config.check with
  | error failure =>
    rw [checked] at started
    cases started
  | ok =>
    cases patrols : Watchdog.checkPatrol config.watchdog (Watchdog.interval config.watchdog) with
    | error failure =>
      rw [checked, patrols] at started
      cases started
    | ok =>
      rw [checked, patrols] at started
      cases started
      rfl

/--
The state of a simulation whose hub has handled any messages is saved, and an application that was
just started restores it.  There are no warnings; the organization is the same, and so are the
sessions.  One that was idle comes back as it was.  One in the midst of a turn comes back with the
turn opened anew and marked as resumed, in the next generation, which is one higher unless the word
of 64 bits that holds it begins again at zero; it keeps its model, its transcript and its queue, but
its buffers are empty.  So when the turn is closed, in whichever way, nothing is added but the
notices of closing it, and this is what closing it before the restart would have left if and only if
nothing was buffered.
-/
theorem restored_sessions (agents : Agents) (messages : List (HubMessage × Timestamp))
    {s : Simulation} (rest : s.AtRest)
    (reached : s.hub.engine = ((Hub.start agents).handleAll messages).1.engine) {config : Config}
    {offered : Agents} {fresh : Nat → Id} {now : Timestamp} {app : Application}
    (started : Application.start config offered fresh now = .ok app) :
    ∃ state after, s.savedState = (.ok state, after) ∧ after.hub = s.hub ∧
      let restarted := app.simulation.restore state
      restarted.1 = [] ∧ restarted.2.organization = s.organization ∧
      ∀ name,
        (s.hub.session? name = none → restarted.2.hub.session? name = none) ∧
        ∀ record, s.hub.session? name = some record →
          (record.isProcessing = false → restarted.2.hub.session? name = some record) ∧
          (record.isProcessing = true →
            (∃ time, restarted.2.hub.session? name = some
              { record with
                generation := wrap maxWord64 (record.generation + 1)
                startedAt := some time
                activeTools := 0
                usedTools := false
                isResumed := true
                pendingContent := ""
                pendingReasoning := ""
                turnResponse := ""
                lastActive := time }) ∧
            ∀ later op op' before after,
              Engine.Closes name (wrap maxWord64 (record.generation + 1)) later op before after →
              Engine.Closes name record.generation later op' before after →
                restarted.2.hub.engine.transcriptAfter? op name =
                  some (record.transcript ++ before ++ after) ∧
                (restarted.2.hub.engine.transcriptAfter? op name =
                    s.hub.engine.transcriptAfter? op' name ↔
                  record.pendingContent = "" ∧ record.pendingReasoning = "")) := by
  have filed : s.hub.Filed _ := fun name => reached ▸ Hub.filed_handleAll agents messages name
  have unresumed (name : String) : (s.hub.engine.desk name).Unresumed :=
    reached ▸ Hub.unresumed_handleAll agents messages name
  -- what is saved has distinct names, each the name under which the session was found
  have listed (record : Session) : record ∈ s.hub.engine.sessions.values ↔
      s.hub.session? record.name = some record := Registry.mem_values_iff filed.named
  have distinct : (s.hub.engine.sessions.values.map (·.name)).Nodup := by
    rw [List.Nodup, List.pairwise_map]
    exact (Registry.values_pairwise filed.named).imp fun below => String.ne_of_lt below
  obtain ⟨time, after, same, saved⟩ := rest.savedState
  refine ⟨_, after, saved, same, ?_⟩
  intro restarted
  have fresh := Application.start_simulation started
  have rest' : app.simulation.AtRest := by
    rw [fresh]
    exact .start ..
  have nobody (name : String) : app.simulation.hub.session? name = none := by
    rw [fresh]
    rfl
  obtain ⟨accepted, organization, others, restores⟩ :=
    Simulation.restoreSessions_of_new (rest'.withOrganization s.organization) distinct
      fun record _ => nobody record.name
  refine ⟨accepted, organization, fun name => ⟨fun absent => ?_, fun record found => ?_⟩⟩
  · refine (others name fun mem => ?_).trans (nobody name)
    obtain ⟨record, stored, rfl⟩ := List.mem_map.1 mem
    rw [(listed record).1 stored] at absent
    cases absent
  · obtain rfl : record.name = name := filed.named name record found
    obtain ⟨time, there⟩ := restores record ((listed record).2 found)
    -- every record is resumed, which changes it only if its turn was open
    refine ⟨fun idle => ?_, fun busy => ?_⟩
    · rwa [Session.resume_of_idle time idle (unresumed _ record found idle)] at there
    · rw [Session.resume_of_busy time busy] at there
      refine ⟨⟨time, there⟩, fun later op op' before after closes closes' => ?_⟩
      have alike := closes.alike closes' there busy found busy rfl
        ((Session.buffered_eq_nil ..).2 ⟨rfl, rfl⟩)
      rwa [record.buffered_eq_nil] at alike

/-- The agent has used a tool, so what it streamed before is in the transcript and survives. -/
theorem used_tool_restored :
    let now : Timestamp := ⟨0, 0⟩
    let agents : Agents := .scripted ⟨.empty, none⟩ false
    let messages : List (HubMessage × Timestamp) :=
      [(.request 0 (.create "a" "m"), now), (.request 1 (.begin "a" "go" false), now),
        (.streamed "a" 1 (.content "half"), now), (.streamed "a" 1 (.toolStarted "bash"), now)]
    let fresh := Simulation.start agents (fun n => ⟨n⟩) now
    let s := { fresh with hub := ((Hub.start agents).handleAll messages).1 }
    let kept : List Entry := [.ofRole .user "go" now, .ofRole .assistant "half" now,
      .ofTool "bash" "bash started" now]
    s.AtRest ∧ Application.start .default agents (fun n => ⟨n⟩) now = .ok ⟨.default, fresh⟩ ∧
      ∃ state, s.savedState.1 = .ok state ∧
        let restarted := fresh.restore state
        restarted.1 = [] ∧
        (∃ resumed, restarted.2.hub.session? "a" = some resumed ∧ resumed.isProcessing = true ∧
          resumed.isResumed = true ∧ resumed.generation = 2 ∧ resumed.transcript = kept) ∧
        restarted.2.hub.engine.transcriptAfter? (.abort "a" now) "a" = some kept := by
  intro now agents messages fresh s kept
  have rest : s.AtRest := (Simulation.AtRest.start ..).withHub _
  have checked : Config.default.check = .ok () := by decide +kernel
  have patrols : Watchdog.checkPatrol .default (Watchdog.interval .default) = .ok () := by
    decide +kernel
  have started : Application.start .default agents (fun n => ⟨n⟩) now =
      .ok ⟨.default, fresh⟩ := by
    rw [Application.start, checked, show Config.default.watchdog = .default from rfl, patrols]
    rfl
  let working := (Session.fresh "a" "m" now).beginTurn now "go" false now
  let record :=
    Engine.absorb (Engine.absorb working (.content "half") now) (.toolStarted "bash") now
  have there : s.hub.session? "a" = some record := by decide
  have busy : record.isProcessing = true := by decide
  have transcript : record.transcript = kept := by decide
  have generation : wrap maxWord64 (record.generation + 1) = 2 := by decide
  have reached : s.hub.engine = ((Hub.start agents).handleAll messages).1.engine := by
    simp only [s]
  obtain ⟨state, after, saved, -, accepted, -, sessions⟩ :=
    restored_sessions agents messages rest reached started
  obtain ⟨-, resumes⟩ := (sessions "a").2 record there
  obtain ⟨⟨time, resumed⟩, closes⟩ := resumes busy
  obtain ⟨closed, -⟩ := closes now _ _ _ _ .aborted .aborted
  rw [transcript] at closed
  exact ⟨rest, started, state, congrArg Prod.fst saved, accepted,
    ⟨_, resumed, busy, rfl, generation, transcript⟩, closed⟩

/-- What the agent has streamed last is saved and does not survive: it would be in the transcript if
the turn had been aborted before the restart, and is not if the turn is aborted after it. -/
theorem streamed_text_lost :
    let now : Timestamp := ⟨0, 0⟩
    let agents : Agents := .scripted ⟨.empty, none⟩ false
    let messages : List (HubMessage × Timestamp) :=
      [(.request 0 (.create "a" "m"), now), (.request 1 (.begin "a" "go" false), now),
        (.streamed "a" 1 (.content "half"), now)]
    let fresh := Simulation.start agents (fun n => ⟨n⟩) now
    let s := { fresh with hub := ((Hub.start agents).handleAll messages).1 }
    let state := SavedState.create .empty s.hub.engine.sessions.values (now.add ⟨1000⟩)
    s.savedState.1 = .ok state ∧ state.sessions.map (·.pendingContent) = ["half"] ∧
      (fresh.restore state).1 = [] ∧
      s.hub.engine.transcriptAfter? (.abort "a" now) "a" =
        some [.ofRole .user "go" now, .ofRole .assistant "half" now] ∧
      (fresh.restore state).2.hub.engine.transcriptAfter? (.abort "a" now) "a" =
        some [.ofRole .user "go" now] := by
  decide +kernel

end Ensemble
