import Ensemble.Proofs.Hub.Run
import Ensemble.Proofs.Watchdog
import Mathlib.Data.List.Basic

/-!
# The watchdog's patrol

A scan stops the turns of a hub that are stuck.  Which these are is a matter of the policy
(`Ensemble.Proofs.Watchdog`), and it reaches every open turn because of what every run keeps
(`Filed`): sessions are filed under their own names, and an open turn has a start, whatever the
records were that sessions were restored from.

Stopping turns at different desks is stopping each of them by itself (`recoverAll_stops`).  From
both follows `scan_recovers_stuck`, which says what a scan of any reachable hub does.
-/

namespace Ensemble

open Engine (Operation Answer)

/-! ## Sessions under their own names, and turns with a start -/

/-- The session of a desk goes by the name of the desk, and its open turn was started at a time of
which `clock` holds. -/
def Desk.Filed (clock : Timestamp → Prop) (name : String) (d : Desk) : Prop :=
  ∀ s, d.session = some s → s.name = name ∧
    (s.isProcessing = true → ∃ startedAt, s.startedAt = some startedAt ∧ clock startedAt)

namespace Desk

variable {clock : Timestamp → Prop} {name : String} {s : Session} {waiter : Option Waiter}

/-- An idle session only has to go by its name. -/
theorem Filed.of_idle (named : s.name = name) (idle : s.isProcessing = false) :
    Filed clock name ⟨some s, waiter⟩ := by
  rintro _ ⟨⟩
  refine ⟨named, fun busy => ?_⟩
  rw [idle] at busy
  cases busy

theorem Filed.of_started {startedAt : Timestamp} (named : s.name = name)
    (started : s.startedAt = some startedAt) (time : clock startedAt) :
    Filed clock name ⟨some s, waiter⟩ := by
  rintro _ ⟨⟩
  exact ⟨named, fun _ => ⟨startedAt, started, time⟩⟩

end Desk

/-- Work of the engine keeps sessions filed. -/
theorem Engine.Deed.filed {clock : Timestamp → Prop} {now : Timestamp} {op : Operation}
    {d d' : Desk} {answer : Answer} {signals : List Signal} (deed : Deed op d answer d' signals)
    (work : op.IsWork now) (time : clock now) (h : d.Filed clock op.target) :
    d'.Filed clock op.target := by
  cases deed with
  | refused | ignored | unmoved | abortedIdle | tookNothing => exact h
  | closed | closedNothing | abortedNothing =>
    intro s found
    cases found
  | begun => exact work.elim
  | @created s =>
    obtain ⟨model, new⟩ := work
    have idle : s.isProcessing = false := by
      rw [new]
      rfl
    exact .of_idle rfl idle
  | @restored s =>
    -- whatever the record said of a start, an open turn is started anew
    cases work
    cases busy : s.isProcessing with
    | false => exact .of_idle (s.resume_name now) ((s.resume_isProcessing now).trans busy)
    | true => exact .of_started (s.resume_name now) (s.resume_startedAt now busy) time
  | advanced | enqueued | taken | noticed | remodelled =>
    obtain ⟨named, started⟩ := h _ rfl
    rintro _ ⟨⟩
    exact ⟨named, started⟩
  | absorbed busy =>
    obtain ⟨named, started⟩ := h _ rfl
    obtain ⟨startedAt, started, before⟩ := started busy
    exact .of_started ((absorb_name _ _ _).trans named) ((absorb_startedAt _ _ _).trans started)
      before
  | ended =>
    refine .of_idle ?_ (Session.endTurn_isProcessing _ _ _)
    rw [Session.endTurn_name, absorb_name]
    exact (h _ rfl).1
  | completed =>
    refine .of_idle ?_ (Session.endTurn_isProcessing _ _ _)
    rw [Session.endTurn_name]
    exact (h _ rfl).1
  | aborted | recovered =>
    refine .of_idle ?_ (Session.stop_isProcessing _ _)
    rw [Session.stop_name]
    exact (h _ rfl).1
  | recoveredIdle idle => exact .of_idle (h _ rfl).1 idle

namespace Hub

/-- The sessions of a hub go by the names under which they are found, and open turns were started at
times of which `clock` holds. -/
def Filed (clock : Timestamp → Prop) (h : Hub) : Prop :=
  ∀ name, (h.engine.desk name).Filed clock name

section Filed

variable {clock : Timestamp → Prop} {h h' : Hub} {effects : List HubEffect} {now : Timestamp}

theorem Filed.start (agents : Agents) : (start agents).Filed clock := by
  intro name s found
  cases found

/-- Every move keeps sessions filed. -/
theorem Filed.move (filed : h.Filed clock) (time : clock now) (move : Move now h effects h') :
    h'.Filed clock := by
  refine move.keeps_desks (fun deed work filed => deed.filed work time filed) ?_ filed
  rintro name s w prompt suppressPrompt next filed s' ⟨⟩
  exact ⟨(Session.beginTurn_name ..).trans (filed s rfl).1, fun _ => ⟨now, rfl, time⟩⟩

/-- Every run keeps sessions filed. -/
theorem Filed.run (filed : h.Filed clock) (run : Run clock h effects h') : h'.Filed clock :=
  run.keeps (P := fun _ h => h.Filed clock) filed fun time move filed => filed.move time move

end Filed

/-- In a hub that has handled messages, turns were started at the times of these. -/
theorem filed_handleAll (agents : Agents) (messages : List (HubMessage × Timestamp)) :
    (((start agents).handleAll messages).1).Filed
      fun time => ∃ message ∈ messages, message.2 = time :=
  (Filed.start agents).run (handleAll_run _ messages fun message mem => ⟨message, mem, rfl⟩)

/-! ## Stopping turns -/

/-- The desk of a session whose stuck turn was stopped: the session is idle and nobody waits. -/
def stoppedDesk (s : Session) (turn : StuckTurn) (now : Timestamp) : Desk :=
  ⟨some ((s.notice turn.notice now).stop now), none⟩

/-- Stopping an open turn changes the desk of its session, and whoever waits there is cancelled. -/
theorem recover_of_busy {h : Hub} {turn : StuckTurn} {s : Session}
    (found : h.session? turn.session = some s) (busy : s.isProcessing = true) (now : Timestamp) :
    ∃ words : List HubEffect, (∀ effect ∈ words, effect.isWord = true) ∧
      h.recover turn now =
        ⟨true, { h with engine := h.engine.withDesk turn.session (stoppedDesk s turn now) },
          (Engine.cancelled (h.engine.waiters.get? turn.session)).map .signal ++ words⟩ := by
  have stopped := Engine.recover_of_active found (by simp [busy]) turn.notice now
  refine ⟨[.stop turn.session, .observe turn.session (.noticed turn.notice),
    .observe turn.session (.recovered turn.elapsed turn.timeout)], ?_, ?_⟩
  · simp [HubEffect.isWord]
  · rw [recover_of_ok (congrArg Step.answer stopped), stopped]
    rfl

/-- Turns are stopped, each at its own desk, and all other desks are left alone. -/
structure Stops (now : Timestamp) (turns : List StuckTurn) (h : Hub)
    (done : HubStep (List StuckTurn)) : Prop where
  answer : done.answer = turns
  outcomes : outcomes done.effects =
    turns.flatMap fun turn => Engine.cancelled (h.engine.waiters.get? turn.session)
  stopped : ∀ turn ∈ turns, ∃ s, h.session? turn.session = some s ∧
    done.hub.engine.desk turn.session = stoppedDesk s turn now
  others : ∀ name ∉ turns.map (·.session), done.hub.engine.desk name = h.engine.desk name

/-- One turn is stopped, and then turns at other desks. -/
theorem Stops.cons {now : Timestamp} {turn : StuckTurn} {rest : List StuckTurn} {h h' : Hub}
    {s : Session} {done : HubStep (List StuckTurn)} {words : List HubEffect}
    (rests : Stops now rest h' done) (found : h.session? turn.session = some s)
    (apart : turn.session ∉ rest.map (·.session))
    (here : h'.engine.desk turn.session = stoppedDesk s turn now)
    (elsewhere : ∀ name, name ≠ turn.session → h'.engine.desk name = h.engine.desk name)
    (quiet : ∀ effect ∈ words, effect.isWord = true) :
    Stops now (turn :: rest) h ⟨turn :: done.answer, done.hub,
      (Engine.cancelled (h.engine.waiters.get? turn.session)).map .signal ++ words ++
        done.effects⟩ := by
  -- Stopping the first turn leaves the desks of the others as they were.
  have desks : ∀ other ∈ rest, h'.engine.desk other.session = h.engine.desk other.session :=
    fun other mem => elsewhere _ fun same => apart (same ▸ List.mem_map_of_mem mem)
  refine ⟨congrArg (turn :: ·) rests.answer, ?_, ?_, fun name mem => ?_⟩
  · have waiters : ∀ other ∈ rest, Engine.cancelled (h'.engine.waiters.get? other.session) =
        Engine.cancelled (h.engine.waiters.get? other.session) :=
      fun other mem => congrArg (Engine.cancelled ·.waiter) (desks other mem)
    rw [outcomes_append, outcomes_append, outcomes_signals, outcomes_words quiet,
      List.append_nil, rests.outcomes, List.flatMap_cons, List.flatMap_congr waiters]
  · refine List.forall_mem_cons.2 ⟨⟨s, found, ?_⟩, fun other mem => ?_⟩
    · exact (rests.others _ apart).trans here
    · obtain ⟨s', found', stopped⟩ := rests.stopped other mem
      exact ⟨s', (congrArg Desk.session (desks other mem)).symm.trans found', stopped⟩
  · rw [List.map_cons, List.mem_cons, not_or] at mem
    exact (rests.others name mem.2).trans (elsewhere name mem.1)

/-- Stopping turns of sessions at work stops each of them, if no session has two. -/
theorem recoverAll_stops {turns : List StuckTurn} {h : Hub} (now : Timestamp)
    (busy : ∀ turn ∈ turns, ∃ s, h.session? turn.session = some s ∧ s.isProcessing = true)
    (apart : (turns.map (·.session)).Nodup) : Stops now turns h (h.recoverAll now turns) := by
  induction turns generalizing h with
  | nil => exact ⟨rfl, rfl, by simp, fun _ _ => rfl⟩
  | cons turn rest ih =>
    obtain ⟨⟨s, found, atWork⟩, busy⟩ := List.forall_mem_cons.1 busy
    rw [List.map_cons, List.nodup_cons] at apart
    obtain ⟨words, quiet, first⟩ := recover_of_busy found atWork now
    generalize next : { h with
      engine := h.engine.withDesk turn.session (stoppedDesk s turn now) } = h' at first
    have here : h'.engine.desk turn.session = stoppedDesk s turn now := by
      rw [← next]
      exact (Engine.desk_withDesk ..).trans (if_pos rfl)
    have elsewhere : ∀ name, name ≠ turn.session → h'.engine.desk name = h.engine.desk name := by
      intro name ne
      rw [← next]
      exact (Engine.desk_withDesk ..).trans (if_neg ne)
    -- the others are still at work when their turns are stopped
    have rests : Stops now rest h' (h'.recoverAll now rest) := by
      refine ih (fun other mem => ?_) apart.2
      obtain ⟨s', found', atWork'⟩ := busy other mem
      have desk := elsewhere _ fun same => apart.1 (same ▸ List.mem_map_of_mem mem)
      exact ⟨s', (congrArg Desk.session desk).trans found', atWork'⟩
    rw [recoverAll, first]
    exact rests.cons found apart.1 here elsewhere quiet

/-! ## A scan -/

section Scan

variable {clock : Timestamp → Prop} {h : Hub} (filed : h.Filed clock)
include filed

/-- The sessions of a hub that is filed go by their names. -/
theorem Filed.named (name : String) (s : Session) (found : h.session? name = some s) :
    s.name = name :=
  (filed name s found).1

/-- A scan stops the turns that the watchdog finds. -/
theorem Filed.scan_stops (time : Timestamp) (settings : WatchdogSettings)
    (multiAgent : List String) (now : Timestamp) :
    Stops now (Watchdog.findStuck settings time multiAgent h.engine.sessions.values) h
      (h.scan time settings multiAgent now) := by
  refine recoverAll_stops now (fun turn mem => ?_) ?_
  · obtain ⟨s, found, stuck⟩ := (Watchdog.mem_findStuck_iff filed.named).1 mem
    exact ⟨s, found, (Watchdog.stuckTurn?_eq_some_iff.1 stuck).1⟩
  · rw [Watchdog.findStuck_eq filed.named, List.Nodup, List.pairwise_map]
    exact (Watchdog.findStuck_pairwise filed.named).imp fun below => String.ne_of_lt below

/-- The sessions whose turns a scan stops are those with a stuck turn. -/
theorem Filed.mem_scan_iff {time : Timestamp} {settings : WatchdogSettings}
    {multiAgent : List String} {now : Timestamp} {name : String} :
    name ∈ (h.scan time settings multiAgent now).answer.map (·.session) ↔
      ∃ s, h.session? name = some s ∧ Watchdog.IsStuck settings time multiAgent s := by
  rw [(filed.scan_stops time settings multiAgent now).answer]
  exact Watchdog.mem_names_findStuck_iff filed.named

/-- After a scan there is nothing left that another scan as of the same time would stop. -/
theorem Filed.scan_scan (time : Timestamp) (settings : WatchdogSettings)
    (multiAgent : List String) (now later : Timestamp) :
    let done := h.scan time settings multiAgent now
    done.hub.scan time settings multiAgent later = ⟨[], done.hub, []⟩ := by
  intro done
  have stops : Stops now _ h done := filed.scan_stops time settings multiAgent now
  have nothing : Watchdog.findStuck settings time multiAgent done.hub.engine.sessions.values =
      [] := by
    refine Watchdog.findStuck_eq_nil fun name s found stuck => ?_
    -- a turn that was stopped is over, and one that was not is as it was when it was not found
    by_cases mem : name ∈ done.answer.map (·.session)
    · rw [stops.answer] at mem
      obtain ⟨turn, listed, rfl⟩ := List.mem_map.1 mem
      obtain ⟨s', -, desk⟩ := stops.stopped turn listed
      have idle : s = (s'.notice turn.notice now).stop now :=
        Option.some.inj (found.symm.trans (congrArg Desk.session desk))
      exact Watchdog.not_isStuck_of_idle (by rw [idle]; rfl) stuck
    · have before : h.session? name = some s := by
        have desk := stops.others name (stops.answer ▸ mem)
        exact (congrArg Desk.session desk).symm.trans found
      exact mem (filed.mem_scan_iff.2 ⟨s, before, stuck⟩)
  unfold scan
  rw [nothing]
  rfl

end Scan

/--
The watchdog scans a hub that has handled any messages, as of any time.  It reports and stops the
turns that are open for longer than their timeout, in the order of their names.  Every open turn has
a start, so past the tool timeout none escapes.  A session whose turn is stopped is idle afterwards,
not resumed, with nothing queued and nobody waiting, and whoever waited hears that the turn is
cancelled; nothing else is changed and nobody else is told an outcome.  Scanning once more as of the
same time does nothing.  With more multi-agent sessions no more turns are found.  As of a later time
those turns are still found that were not begun within a leap second, if neither of the two times
lies within one.
-/
theorem scan_recovers_stuck (agents : Agents) (messages : List (HubMessage × Timestamp))
    {settings : WatchdogSettings} (valid : settings.check = .ok ()) (time : Timestamp)
    (multiAgent : List String) (caller : Nat) (now : Timestamp) :
    let h := ((start agents).handleAll messages).1
    let done := h.scan time settings multiAgent now
    let found := fun time multiAgent =>
      (h.scan time settings multiAgent now).answer.map (·.session)
    h.handle (.request caller (.scan time settings multiAgent)) now =
        (done.hub, done.effects ++ [.reply caller (.ok (.recovered done.answer))]) ∧
      (∀ turn, turn ∈ done.answer ↔ ∃ s startedAt, h.session? turn.session = some s ∧
        s.isProcessing = true ∧ s.startedAt = some startedAt ∧
        turn.elapsed = time.elapsed startedAt ∧
        turn.timeout = Watchdog.timeout settings s (multiAgent.contains turn.session) ∧
        turn.timeout.nanos < turn.elapsed.nanos) ∧
      (found time multiAgent).Pairwise (· < ·) ∧
      (∀ name s, h.session? name = some s → s.isProcessing = true →
        ∃ startedAt, s.startedAt = some startedAt ∧
          (∃ message ∈ messages, message.2 = startedAt) ∧
          ((Span.ofSeconds settings.toolTimeout).nanos < (time.elapsed startedAt).nanos →
            name ∈ found time multiAgent)) ∧
      (∀ name ∈ found time multiAgent, ∃ s, done.hub.engine.desk name = ⟨some s, none⟩ ∧
        s.isProcessing = false ∧ s.isResumed = false ∧ s.queue = []) ∧
      (∀ name ∉ found time multiAgent, done.hub.engine.desk name = h.engine.desk name) ∧
      (outcomes done.effects = (found time multiAgent).flatMap fun name =>
        Engine.cancelled (h.engine.waiters.get? name)) ∧
      (∀ later, done.hub.scan time settings multiAgent later = ⟨[], done.hub, []⟩) ∧
      (∀ more, multiAgent ⊆ more → found time more ⊆ found time multiAgent) ∧
      ∀ later, time ≤ later → time.IsRegular → later.IsRegular →
        ∀ name ∈ found time multiAgent,
          (∀ s startedAt, h.session? name = some s → s.startedAt = some startedAt →
            startedAt.IsRegular) →
          name ∈ found later multiAgent := by
  intro h done found
  have filed : h.Filed _ := filed_handleAll agents messages
  have stops : Stops now _ h done := filed.scan_stops time settings multiAgent now
  have names : found time multiAgent = done.answer.map (·.session) := rfl
  refine ⟨rfl, fun turn => ?_, ?_, fun name s there busy => ?_, fun name mem => ?_,
    fun name mem => ?_, ?_, fun later => filed.scan_scan time settings multiAgent now later, ?_, ?_⟩
  · rw [stops.answer]
    exact Watchdog.mem_findStuck_iff_exceeds filed.named
  · rw [names, stops.answer, Watchdog.findStuck_eq filed.named, List.pairwise_map]
    exact Watchdog.findStuck_pairwise filed.named
  · obtain ⟨startedAt, started, asked⟩ := (filed name s there).2 busy
    refine ⟨startedAt, started, asked, fun exceeds => filed.mem_scan_iff.2 ⟨s, there, ?_⟩⟩
    have le := Watchdog.timeout_le_toolTimeout (s := s) valid (multiAgent.contains s.name)
    exact Watchdog.isStuck_iff.2 ⟨busy, startedAt, started, Nat.lt_of_le_of_lt le exceeds⟩
  · rw [names, stops.answer] at mem
    obtain ⟨turn, listed, rfl⟩ := List.mem_map.1 mem
    obtain ⟨s, -, desk⟩ := stops.stopped turn listed
    exact ⟨_, desk, rfl, rfl, rfl⟩
  · rw [names, stops.answer] at mem
    exact stops.others name mem
  · rw [stops.outcomes, names, stops.answer, List.flatMap_map]
  · intro more fewer name mem
    obtain ⟨s, there, stuck⟩ := filed.mem_scan_iff.1 mem
    exact filed.mem_scan_iff.2 ⟨s, there, stuck.of_subset valid fewer⟩
  · intro later le regular regular' name mem started
    obtain ⟨s, there, stuck⟩ := filed.mem_scan_iff.1 mem
    exact filed.mem_scan_iff.2 ⟨s, there, stuck.later le regular regular' fun startedAt =>
      started s startedAt there⟩

/-- An agent is silent for 121 seconds, and the turn is stopped then or at any time later. -/
theorem silent_turn_recovered :
    let now : Timestamp := ⟨0, 0⟩
    let time : Timestamp := ⟨121, 0⟩
    let agents : Agents := .scripted ⟨.empty, none⟩ false
    let messages : List (HubMessage × Timestamp) :=
      [(.request 0 (.create "a" "m"), now), (.request 1 (.begin "a" "go" false), now)]
    let h := ((start agents).handleAll messages).1
    let done := h.scan time .default [] now
    WatchdogSettings.default.check = .ok () ∧
      ⟨"a", .ofSeconds 121, .ofSeconds 120⟩ ∈ done.answer ∧
      (∃ s, done.hub.engine.desk "a" = ⟨some s, none⟩ ∧ s.isProcessing = false) ∧
      ⟨1, .cancelled⟩ ∈ outcomes done.effects ∧
      ∀ later, time ≤ later → later.IsRegular →
        "a" ∈ (h.scan later .default [] now).answer.map (·.session) := by
  intro now time agents messages h done
  have valid : WatchdogSettings.default.check = .ok () := by decide
  have there : h.session? "a" =
      some ((Session.fresh "a" "m" now).beginTurn now "go" false now) := by decide
  obtain ⟨-, found_iff, -, -, stopped, -, told, -, -, stays⟩ :=
    scan_recovers_stuck agents messages valid time [] 2 now
  have mem : ⟨"a", .ofSeconds 121, .ofSeconds 120⟩ ∈ done.answer :=
    (found_iff _).2 ⟨_, now, there, rfl, rfl, by decide, by decide, by decide⟩
  have name : "a" ∈ done.answer.map (·.session) := List.mem_map_of_mem mem
  obtain ⟨s, desk, idle, -, -⟩ := stopped "a" name
  have cancels : ⟨1, .cancelled⟩ ∈ outcomes done.effects := by
    rw [told]
    exact List.mem_flatMap.2 ⟨"a", name, by decide⟩
  refine ⟨valid, mem, ⟨s, desk, idle⟩, cancels, fun later le regular => ?_⟩
  refine stays later le (by decide) regular "a" name fun s startedAt found started => ?_
  rw [there] at found
  cases found
  cases started
  decide

/-- Around leap seconds a turn that is found may be gone as of a later time.  In the first case the
earlier time lies within a leap second, in the second the turn was begun within one, and in the
third the later time lies within one, on the day after the turn was begun. -/
theorem found_turn_gone_later :
    let found := fun (startedAt : Timestamp) (limit : Nat) (time : Timestamp) =>
      let h := ((start (.scripted ⟨.empty, none⟩ false)).handleAll
        [(.request 0 (.create "a" "m"), startedAt),
          (.request 1 (.begin "a" "go" false), startedAt)]).1
      (h.scan time ⟨15, limit, limit + 1⟩ [] time).answer.map (·.session)
    (∀ limit ∈ [120, 46800, 86399],
      WatchdogSettings.check ⟨15, limit, limit + 1⟩ = .ok ()) ∧
    ((⟨119, 1500000000⟩ : Timestamp) ≤ ⟨120, 0⟩ ∧
      found ⟨0, 0⟩ 120 ⟨119, 1500000000⟩ = ["a"] ∧ found ⟨0, 0⟩ 120 ⟨120, 0⟩ = []) ∧
    ((⟨86399, 900000000⟩ : Timestamp) ≤ ⟨86400, 0⟩ ∧
      found ⟨39599, 1500000000⟩ 46800 ⟨86399, 900000000⟩ = ["a"] ∧
      found ⟨39599, 1500000000⟩ 46800 ⟨86400, 0⟩ = []) ∧
    ((⟨125999, 900000000⟩ : Timestamp) ≤ ⟨125999, 1000000000⟩ ∧
      found ⟨39600, 0⟩ 86399 ⟨125999, 900000000⟩ = ["a"] ∧
      found ⟨39600, 0⟩ 86399 ⟨125999, 1000000000⟩ = []) := by
  decide +kernel

end Hub

end Ensemble
