import Ensemble.Coordination.Round
import Ensemble.Proofs.Coordination.Lane
import Mathlib.Logic.Function.Basic

/-!
# Orchestrated rounds, event by event

While a round is under way, several workers work side by side, and any of their turns may be the
next to end.  What a round can come to is told by its courses (`Round.Course`): the events so far,
which are the prompts that were sent and the turns that have ended, and the prompts under way.

The shape of the argument: the lanes of a round are those of the workers with a task, each with the
tasks of its worker (`lanesOf_eq`).  Whatever turn ends next, each worker has been sent its tasks in
order, one when the one before had ended (`Working`, with `start` and `receive`).  Every course of a
round is therefore at one of the stages of `Delegated` once there is a plan, and
`round_follows_plan` says what that means for the whole round.
-/

namespace Ensemble.Coordination

open Delegation (Assignment)

/-! ## Events and courses -/

/-- What happens in a round. -/
inductive RoundEvent where
  | sent (session prompt : String)
  | ended (session prompt : String) (result : Attempt String)

namespace RoundEvent

/-- The session that an event is about. -/
def session : RoundEvent → String
  | sent session _ => session
  | ended session _ _ => session

@[simp] theorem session_sent (session prompt : String) : (sent session prompt).session = session :=
  rfl

@[simp] theorem session_ended (session prompt : String) (result : Attempt String) :
    (ended session prompt result).session = session :=
  rfl

/-- The session and the prompt, if a prompt is sent. -/
def sent? : RoundEvent → Option (String × String)
  | sent session prompt => some (session, prompt)
  | ended _ _ _ => none

/-- The sending of some prompts. -/
def sending (prompts : List LanePrompt) : List RoundEvent :=
  prompts.map fun p => sent p.session p.prompt

theorem sending_underWay (l : Lane) (place : Nat) :
    sending (l.underWay? place).toList = l.prompts.head?.toList.map (sent l.session) := by
  cases prompts : l.prompts <;> simp [sending, Lane.underWay?, prompts]

/-- Prompts to one session are all or none of them prompts to a given one. -/
theorem filter_sent (session s : String) (prompts : List String) :
    (prompts.map (sent s)).filter (·.session == session) =
      if s = session then prompts.map (sent s) else [] := by
  induction prompts with
  | nil => simp
  | cons prompt rest ih =>
    rw [List.map_cons, List.filter_cons, ih]
    by_cases eq : s = session <;> simp [eq]

end RoundEvent

open RoundEvent (sending)

/-- The prompts that a round sends as it goes on. -/
def RoundProgress.prompts : RoundProgress → List LanePrompt
  | .going _ prompts => prompts
  | .over _ => []

namespace Round

/-- The courses of a round from its opening: how it goes on, the prompts under way and the events so
far.  The turn of any prompt under way may be the next to end, with any result. -/
inductive Course (opening : RoundProgress) :
    RoundProgress → List LanePrompt → List RoundEvent → Prop where
  | opened : Course opening opening opening.prompts (sending opening.prompts)
  | ended {round : Round} {prompts underWay : List LanePrompt} {log : List RoundEvent}
      {next : RoundProgress} (course : Course opening (.going round prompts) underWay log)
      (p : LanePrompt) (result : Attempt String) (mem : p ∈ underWay)
      (received : round.receive p.lane result = next) :
      Course opening next (underWay.erase p ++ next.prompts)
        (log ++ .ended p.session p.prompt result :: sending next.prompts)

/-- The events of one session that is sent tasks one after another, each when the one before has
ended, whatever came of it. -/
def turns (session : String) : List String → List (Attempt String) → List RoundEvent
  | [], _ => []
  | task :: _, [] => [.sent session task]
  | task :: rest, result :: results =>
    .sent session task :: .ended session task result :: turns session rest results

/-- A turn ends, and the next task is sent. -/
theorem turns_concat {session task : String} {tasks : List String} {results : List (Attempt String)}
    (next : tasks[results.length]? = some task) (result : Attempt String) :
    turns session tasks (results ++ [result]) =
      turns session tasks results ++ .ended session task result ::
        (tasks[results.length + 1]?.toList.map (.sent session)) := by
  induction results generalizing tasks with
  | nil =>
    cases tasks with
    | nil => cases next
    | cons first rest =>
      cases next
      cases rest <;> rfl
  | cons first results ih =>
    cases tasks with
    | nil => cases next
    | cons _ rest =>
      simp only [List.cons_append, turns, ih next]
      rfl

/-- Sessions are sent their tasks each once. -/
theorem filterMap_sent_turns {session : String} {tasks : List String}
    {results : List (Attempt String)} (all : tasks.length ≤ results.length) :
    (turns session tasks results).filterMap RoundEvent.sent? = tasks.map (session, ·) := by
  induction tasks generalizing results with
  | nil => rfl
  | cons task rest ih =>
    cases results with
    | nil => cases all
    | cons result results =>
      have rest := ih (Nat.le_of_succ_le_succ all)
      simp only [turns, List.map_cons, ← rest]
      rfl

/-! ## The tasks of a plan -/

/-- A plan delegates to those it may delegate to. -/
theorem worker_mem {plan : String} {workers : List String} {a : Assignment}
    (mem : a ∈ Delegation.assignments plan workers) : a.worker ∈ workers := by
  obtain ⟨block, -, resolved⟩ := List.mem_filterMap.1 mem
  obtain ⟨worker, found, rfl⟩ := Option.map_eq_some_iff.1 resolved
  simp only [Delegation.resolve?] at found
  split at found
  next => cases found
  next =>
    simp only [Option.orElse_eq_orElse, Option.orElse_eq_or, Option.or_eq_some_iff] at found
    rcases found with exact' | ⟨-, close | ⟨-, part⟩⟩
    · exact List.mem_of_find?_eq_some exact'
    · exact List.mem_of_find?_eq_some close
    · exact List.mem_of_find?_eq_some part

/-- The prompt with which a worker is sent a task. -/
def promptFor (workers : List Member) (a : Assignment) : String :=
  withPersona ((workers.find? (·.session == a.worker)).bind (·.persona)) a.task

/-- The prompts for one worker, in the order of the plan. -/
def promptsFor (workers : List Member) (assigned : List Assignment) (session : String) :
    List String :=
  (assigned.filter (·.worker == session)).map (promptFor workers)

/-- The workers with a task, in the order in which the plan first names them. -/
def workersIn (assigned : List Assignment) : List String :=
  (assigned.map (·.worker)).eraseDups

/-- The results of a round, worker by worker. -/
def resultsOf (assigned : List Assignment) (outcomes : String → List (Attempt String)) :
    List MemberResult :=
  (workersIn assigned).flatMap fun session => (outcomes session).map fun result => ⟨session, result⟩

section Tasks

variable {workers : List Member} {assigned : List Assignment}

theorem mem_workersIn {session : String} :
    session ∈ workersIn assigned ↔ ∃ a ∈ assigned, a.worker = session := by
  rw [workersIn, List.mem_eraseDups, List.mem_map]

theorem workersIn_nodup (assigned : List Assignment) : (workersIn assigned).Nodup :=
  nodup_eraseDups _

/-- Who has no task is sent nothing. -/
theorem promptsFor_eq_nil {session : String} :
    promptsFor workers assigned session = [] ↔ session ∉ workersIn assigned := by
  rw [mem_workersIn, promptsFor, List.map_eq_nil_iff, List.filter_eq_nil_iff]
  simp

/-- The lanes of a plan are those of its workers, each with the tasks of the worker. -/
theorem lanesOf_eq (workers : List Member) (assigned : List Assignment) :
    lanesOf workers assigned = (workersIn assigned).map fun session =>
      Lane.ofPrompts session (promptsFor workers assigned session) := by
  -- Lanes are filled in the order of the tasks, hence the induction is on the last one.
  induction assigned using List.reverseRecOn with
  | nil => rfl
  | append_singleton assigned a ih =>
    have step : lanesOf workers (assigned ++ [a]) =
        Lane.enqueue a.worker (promptFor workers a) (lanesOf workers assigned) := by
      simp only [lanesOf, List.foldl_append, List.foldl_cons, List.foldl_nil, promptFor]
    have here : promptsFor workers (assigned ++ [a]) a.worker =
        promptsFor workers assigned a.worker ++ [promptFor workers a] := by
      simp [promptsFor]
    have elsewhere : ∀ session, session ≠ a.worker →
        promptsFor workers (assigned ++ [a]) session = promptsFor workers assigned session :=
      fun session other => by simp [promptsFor, Ne.symm other]
    have named : workersIn (assigned ++ [a]) = if a.worker ∈ workersIn assigned
        then workersIn assigned else workersIn assigned ++ [a.worker] := by
      simp only [workersIn, List.map_append, List.map_cons, List.map_nil, eraseDups_concat]
      exact if_congr Iff.rfl rfl rfl
    rw [step, ih, named,
      Lane.enqueue_map (workersIn_nodup assigned) here elsewhere promptsFor_eq_nil.2]

end Tasks

/-! ## Workers at work -/

/-- The lane of a session that has come to some results. -/
def laneOf (workers : List Member) (assigned : List Assignment)
    (outcomes : String → List (Attempt String)) (session : String) : Lane :=
  ⟨session, outcomes session,
    (promptsFor workers assigned session).drop (outcomes session).length⟩

/-- Workers have come to some results, and this is what happened. -/
structure Working (workers : List Member) (assigned : List Assignment)
    (outcomes : String → List (Attempt String)) (underWay : List LanePrompt)
    (work : List RoundEvent) : Prop where
  /-- Each session was sent its prompts one after another. -/
  told : ∀ session, work.filter (·.session == session) =
    turns session (promptsFor workers assigned session) (outcomes session)
  /-- No session has ended more turns than it has tasks. -/
  fits : ∀ session, (outcomes session).length ≤ (promptsFor workers assigned session).length
  underWay : underWay.Perm
    (Lane.underWay ((workersIn assigned).map (laneOf workers assigned outcomes)))

namespace Working

variable {workers : List Member} {assigned : List Assignment}
  {outcomes : String → List (Attempt String)} {underWay : List LanePrompt} {work : List RoundEvent}

/-- The first prompts of lanes are sent, at most one for each session. -/
theorem filter_sending {sessions : List String} (distinct : sessions.Nodup)
    (lane : String → Lane) (own : ∀ s, (lane s).session = s) (place : Nat) (session : String) :
    (sending (Lane.underWayFrom place (sessions.map lane))).filter (·.session == session) =
      if session ∈ sessions then (lane session).prompts.head?.toList.map (.sent session)
      else [] := by
  induction sessions generalizing place with
  | nil => rfl
  | cons s rest ih =>
    obtain ⟨once, distinct⟩ := List.nodup_cons.1 distinct
    have split : sending (Lane.underWayFrom place ((s :: rest).map lane)) =
        sending ((lane s).underWay? place).toList ++
          sending (Lane.underWayFrom (place + 1) (rest.map lane)) := List.map_append
    rw [split, RoundEvent.sending_underWay, own, List.filter_append, ih distinct,
      RoundEvent.filter_sent]
    by_cases eq : s = session
    · subst eq
      simp [once]
    · simp [eq, Ne.symm eq]

/-- At first each worker with a task is sent the first of its tasks. -/
theorem start (workers : List Member) (assigned : List Assignment) :
    let underWay := Lane.underWay (lanesOf workers assigned)
    Working workers assigned (fun _ => []) underWay (sending underWay) := by
  have lanes : lanesOf workers assigned =
      (workersIn assigned).map (laneOf workers assigned fun _ => []) := lanesOf_eq workers assigned
  intro underWay
  refine ⟨fun session => ?_, fun _ => Nat.zero_le _, by rw [← lanes]⟩
  have sent := filter_sending (workersIn_nodup assigned) (laneOf workers assigned fun _ => [])
    (fun _ => rfl) 0 session
  rw [← lanes] at sent
  refine Eq.trans sent ?_
  split
  next =>
    simp only [laneOf, List.length_nil, List.drop_zero]
    cases promptsFor workers assigned session <;> rfl
  next idle => rw [promptsFor_eq_nil.2 idle, turns]

/-- A prompt under way is the next one of its session, in the lane of the session. -/
theorem next_of_mem (working : Working workers assigned outcomes underWay work) {p : LanePrompt}
    (mem : p ∈ underWay) :
    ∃ before after, workersIn assigned = before ++ p.session :: after ∧ before.length = p.lane ∧
      (promptsFor workers assigned p.session)[(outcomes p.session).length]? = some p.prompt := by
  obtain ⟨lanes, l, lanes', split, first⟩ :=
    Lane.exists_of_mem_underWayFrom (working.underWay.mem_iff.1 mem)
  obtain ⟨before, rest, named, rfl, there⟩ := List.map_eq_append_iff.1 split
  obtain ⟨session, after, rfl, rfl, -⟩ := List.map_eq_cons_iff.1 there
  simp only [Lane.underWay?, laneOf, Option.map_eq_some_iff, List.head?_drop] at first
  obtain ⟨prompt, next, rfl⟩ := first
  exact ⟨before, after, named, by simp, next⟩

/-- A further result of one session changes the lane of that session only. -/
theorem map_laneOf_update {before after : List String} {session : String}
    (named : workersIn assigned = before ++ session :: after) (result : Attempt String) :
    (workersIn assigned).map (laneOf workers assigned
        (Function.update outcomes session (outcomes session ++ [result]))) =
      before.map (laneOf workers assigned outcomes) ++
        (laneOf workers assigned outcomes session).receive result ::
          after.map (laneOf workers assigned outcomes) := by
  -- each worker has one lane, so the session is neither before nor after its own
  have distinct := workersIn_nodup assigned
  rw [named, List.nodup_append, List.nodup_cons] at distinct
  have elsewhere : ∀ sessions : List String, session ∉ sessions →
      sessions.map (laneOf workers assigned
        (Function.update outcomes session (outcomes session ++ [result]))) =
      sessions.map (laneOf workers assigned outcomes) := by
    refine fun sessions out => List.map_congr_left fun other mem => ?_
    have ne : other ≠ session := fun eq => out (eq ▸ mem)
    simp only [laneOf, Function.update_of_ne ne]
  rw [named, List.map_append, List.map_cons, elsewhere after distinct.2.1.1,
    elsewhere before fun mem => distinct.2.2 _ mem _ List.mem_cons_self rfl]
  simp [laneOf, Lane.receive, List.tail_drop]

/-- A turn that is under way ends, and its worker is sent the next of its tasks. -/
theorem receive (working : Working workers assigned outcomes underWay work) {p : LanePrompt}
    (mem : p ∈ underWay) (result : Attempt String) :
    let lanes := Lane.receiveAt p.lane result
      ((workersIn assigned).map (laneOf workers assigned outcomes))
    let outcomes' := Function.update outcomes p.session (outcomes p.session ++ [result])
    let next := Lane.nextAt p.lane lanes
    lanes = (workersIn assigned).map (laneOf workers assigned outcomes') ∧
      Working workers assigned outcomes' (underWay.erase p ++ next)
        (work ++ .ended p.session p.prompt result :: sending next) := by
  intro lanes outcomes' next
  obtain ⟨before, after, named, place, task⟩ := working.next_of_mem mem
  let lane := laneOf workers assigned outcomes
  have length : (before.map lane).length = p.lane := by rw [List.length_map, place]
  have old : (workersIn assigned).map lane =
      before.map lane ++ lane p.session :: after.map lane := by
    rw [named, List.map_append, List.map_cons]
  have received : lanes =
      before.map lane ++ (lane p.session).receive result :: after.map lane := by
    rw [← Lane.receiveAt_append, length, ← old]
  have new : lanes = (workersIn assigned).map (laneOf workers assigned outcomes') := by
    rw [received, map_laneOf_update named]
  have follows : next = Lane.nextAt (before.map lane).length
      (before.map lane ++ (lane p.session).receive result :: after.map lane) := by
    rw [length, ← received]
  have first : (lane p.session).underWay? (before.map lane).length = some p := by
    simp [lane, laneOf, Lane.underWay?, task, place]
  have sent : sending next =
      ((promptsFor workers assigned p.session)[(outcomes p.session).length + 1]?).toList.map
        (.sent p.session) := by
    rw [follows, Lane.nextAt_append, RoundEvent.sending_underWay]
    simp [lane, laneOf, Lane.receive, List.tail_drop]
  -- the log goes on for this session only, and so do its results
  refine ⟨new, fun session => ?_, fun session => ?_, ?_⟩
  · rw [List.filter_append, working.told, List.filter_cons, sent, RoundEvent.filter_sent]
    by_cases here : p.session = session
    · subst here
      simp [outcomes', turns_concat task]
    · simp [here, outcomes', Function.update_of_ne (Ne.symm here)]
  · by_cases here : session = p.session
    · subst here
      simpa [outcomes'] using Nat.succ_le_of_lt (List.getElem?_eq_some_iff.1 task).1
    · simp only [outcomes', Function.update_of_ne here, working.fits]
  · rw [← new, received]
    have all := working.underWay
    rw [old] at all
    rw [follows]
    exact Lane.underWay_receive first all result

/-- Nothing is under way exactly if all lanes are done. -/
theorem underWay_eq_nil_iff_isDone (working : Working workers assigned outcomes underWay work) :
    underWay = [] ↔
      ((workersIn assigned).map (laneOf workers assigned outcomes)).all Lane.isDone = true := by
  rw [← Lane.underWayFrom_eq_nil 0]
  exact ⟨fun nil => (nil ▸ working.underWay).nil_eq.symm,
    fun nil => (working.underWay.trans (.of_eq nil)).eq_nil⟩

/-- Nothing is under way exactly if every session has as many results as tasks. -/
theorem underWay_eq_nil (working : Working workers assigned outcomes underWay work) :
    underWay = [] ↔ ∀ session,
      (outcomes session).length = (promptsFor workers assigned session).length := by
  rw [working.underWay_eq_nil_iff_isDone, List.all_map, List.all_eq_true]
  have done : ∀ session, (Lane.isDone ∘ laneOf workers assigned outcomes) session = true ↔
      (outcomes session).length = (promptsFor workers assigned session).length := by
    intro session
    simp only [Function.comp, Lane.isDone, laneOf, List.isEmpty_iff, List.drop_eq_nil_iff]
    exact ⟨Nat.le_antisymm (working.fits session), Nat.le_of_eq ∘ Eq.symm⟩
  simp only [done]
  refine ⟨fun all session => ?_, fun all session _ => all session⟩
  by_cases named : session ∈ workersIn assigned
  · exact all session named
  · have fits := working.fits session
    rw [promptsFor_eq_nil.2 named] at fits ⊢
    exact Nat.le_zero.1 fits

/-- What happens is about sessions with a task. -/
theorem exists_assignment (working : Working workers assigned outcomes underWay work)
    {event : RoundEvent} (mem : event ∈ work) : ∃ a ∈ assigned, a.worker = event.session := by
  rw [← mem_workersIn]
  by_contra idle
  have told := working.told event.session
  rw [promptsFor_eq_nil.2 idle, turns, List.filter_eq_nil_iff] at told
  exact told event mem (by simp)

/-- When all turns have ended, one prompt was sent for each task. -/
theorem sent_perm (working : Working workers assigned outcomes [] work) :
    (work.filterMap RoundEvent.sent?).Perm
      (assigned.map fun a => (a.worker, promptFor workers a)) := by
  -- session by session, what was sent are the prompts of its assignments
  refine perm_of_filter_eq Prod.fst fun session => ?_
  have sent : (work.filterMap RoundEvent.sent?).filter (·.1 == session) =
      (work.filter (·.session == session)).filterMap RoundEvent.sent? := by
    rw [List.filter_filterMap, List.filterMap_filter]
    refine List.filterMap_congr fun event _ => ?_
    cases event <;> simp [RoundEvent.sent?, Option.filter]
  have all := Nat.le_of_eq (working.underWay_eq_nil.1 rfl session).symm
  rw [sent, working.told, filterMap_sent_turns all, List.filter_map, promptsFor, List.map_map]
  refine List.map_congr_left fun a mem => ?_
  simp only [Function.comp, List.mem_filter, beq_iff_eq] at mem ⊢
  rw [mem.2]

/-- When all turns have ended, there is one result for each task. -/
theorem resultsOf_perm (working : Working workers assigned outcomes [] work) :
    ((resultsOf assigned outcomes).map (·.session)).Perm (assigned.map (·.worker)) := by
  have keyed := flatMap_filter_perm (workersIn_nodup assigned) id (assigned.map (·.worker))
    fun session mem => List.mem_eraseDups.2 mem
  refine (List.Perm.of_eq ?_).trans keyed
  rw [resultsOf, List.map_flatMap]
  refine List.flatMap_congr fun session _ => ?_
  have length : (outcomes session).length = (assigned.filter (·.worker == session)).length := by
    rw [working.underWay_eq_nil.1 rfl session, promptsFor, List.length_map]
  have named : (assigned.map (·.worker)).filter (· == session) =
      List.replicate (outcomes session).length session := by
    rw [List.filter_beq, length, List.count, List.countP_map, List.countP_eq_length_filter]
    rfl
  rw [List.map_map]
  exact List.map_const'.trans named.symm

end Working

/-! ## From the plan to the report -/

section Delegated

variable (orchestrator request plan : String) (workers : List Member) (assigned : List Assignment)

/-- What a round has come to since its orchestrator has planned: how it goes on, the prompts under
way and the events since. -/
inductive Delegated : RoundProgress → List LanePrompt → List RoundEvent → Prop where
  /-- The plan delegates nothing, and is the result. -/
  | nothing (idle : assigned = []) : Delegated (.over (.ok ⟨plan, [], [], plan⟩)) [] []
  /-- The workers work. -/
  | working {outcomes : String → List (Attempt String)} {lanes : List Lane}
      {prompts underWay : List LanePrompt} {work : List RoundEvent} (tasked : assigned ≠ [])
      (working : Working workers assigned outcomes underWay work) (busy : underWay ≠ [])
      (lanes_eq : lanes = (workersIn assigned).map (laneOf workers assigned outcomes)) :
      Delegated (.going (.working orchestrator request plan assigned lanes) prompts) underWay work
  /-- The workers have ended, and the orchestrator combines. -/
  | combining {outcomes : String → List (Attempt String)} {results : List MemberResult}
      {prompts : List LanePrompt} {work : List RoundEvent} (tasked : assigned ≠ [])
      (working : Working workers assigned outcomes [] work)
      (results_eq : results = resultsOf assigned outcomes) :
      Delegated (.going (.combining orchestrator plan assigned results) prompts)
        [⟨0, orchestrator, combiningPrompt request results⟩]
        (work ++ [.sent orchestrator (combiningPrompt request results)])
  /-- The orchestrator has combined. -/
  | combined {outcomes : String → List (Attempt String)} {results : List MemberResult}
      {work : List RoundEvent} (tasked : assigned ≠ [])
      (working : Working workers assigned outcomes [] work)
      (results_eq : results = resultsOf assigned outcomes) (result : Attempt String) :
      Delegated (.over (result.map fun synthesis => ⟨plan, assigned, results, synthesis⟩)) []
        (work ++ [.sent orchestrator (combiningPrompt request results),
          .ended orchestrator (combiningPrompt request results) result])

variable {orchestrator request plan workers assigned}

/-- With its plan an orchestrator starts the work. -/
theorem Delegated.start (orchestrator request plan : String) (workers : List Member) :
    let next := delegate orchestrator request workers plan
    Delegated orchestrator request plan workers
      (Delegation.assignments plan (workers.map (·.session))) next next.prompts
      (sending next.prompts) := by
  simp only [delegate]
  generalize Delegation.assignments plan (workers.map (·.session)) = assigned
  by_cases idle : assigned = []
  · subst idle
    exact .nothing rfl
  · have tasked : assigned ≠ [] := idle
    rw [if_neg (by simpa using idle)]
    have working := Working.start workers assigned
    have busy : Lane.underWay (lanesOf workers assigned) ≠ [] := by
      obtain ⟨a, rest, rfl⟩ := List.exists_cons_of_ne_nil tasked
      rw [Ne, working.underWay_eq_nil]
      intro ended
      have idle := promptsFor_eq_nil.1 (List.length_eq_zero_iff.1 (ended a.worker).symm)
      exact idle (mem_workersIn.2 ⟨a, List.mem_cons_self, rfl⟩)
    exact .working tasked working busy (lanesOf_eq workers assigned)

/-- Whichever turn ends next, the round goes on as it should. -/
theorem Delegated.receive {round : Round} {prompts underWay : List LanePrompt}
    {log : List RoundEvent}
    (delegated : Delegated orchestrator request plan workers assigned (.going round prompts)
      underWay log) {p : LanePrompt} (mem : p ∈ underWay) (result : Attempt String) :
    let next := round.receive p.lane result
    Delegated orchestrator request plan workers assigned next (underWay.erase p ++ next.prompts)
      (log ++ .ended p.session p.prompt result :: sending next.prompts) := by
  cases delegated with
  | @working outcomes _ _ _ _ tasked working busy lanes_eq =>
    obtain ⟨lanes, working⟩ := working.receive mem result
    simp only [Round.receive, collect, lanes_eq]
    split
    -- Nobody is at work and nothing was sent: the results are combined.
    next done =>
      rw [lanes, ← working.underWay_eq_nil_iff_isDone] at done
      obtain ⟨last, unsent⟩ := List.append_eq_nil_iff.1 done
      rw [done, unsent] at working
      have results : Lane.allResults (Lane.receiveAt p.lane result
          ((workersIn assigned).map (laneOf workers assigned outcomes))) =
            resultsOf assigned (Function.update outcomes p.session
              (outcomes p.session ++ [result])) := by
        rw [lanes, Lane.allResults, List.flatMap_map]
        rfl
      rw [last, List.append_cons]
      exact .combining tasked working results
    next more =>
      rw [lanes, ← working.underWay_eq_nil_iff_isDone] at more
      exact .working tasked working more lanes
  | combining tasked working results_eq =>
    obtain rfl := List.mem_singleton.1 mem
    simp only [List.erase_cons_head, List.append_assoc]
    cases result with
    | ok synthesis => exact .combined tasked working results_eq (.ok synthesis)
    | error failure => exact .combined tasked working results_eq (.error failure)

end Delegated

/-! ## Whole courses -/

section Course

variable {group : Group} {members : List Member} {orchestrator : Member}

/-- The request to plan, with which a round opens. -/
def planningOf (group : Group) (members : List Member) (orchestrator : Member) (request : String) :
    LanePrompt :=
  ⟨0, orchestrator.session, planningPrompt group.orchestratorPrompt request
    (members.filter fun m => !m.isOrchestrator)⟩

variable (group members orchestrator) in
/-- What a round has come to: its orchestrator plans, has failed to plan, or has planned. -/
inductive Stage (request : String) : RoundProgress → List LanePrompt → List RoundEvent → Prop where
  | planning {prompts : List LanePrompt} :
      Stage request (.going (.planning orchestrator.session request
        (members.filter fun m => !m.isOrchestrator)) prompts)
        [planningOf group members orchestrator request]
        (sending [planningOf group members orchestrator request])
  | unplanned (failure : Failure) :
      Stage request (.over (.error failure)) []
        (sending [planningOf group members orchestrator request] ++
          [.ended orchestrator.session (planningOf group members orchestrator request).prompt
            (.error failure)])
  | planned {plan : String} {progress : RoundProgress} {underWay : List LanePrompt}
      {log : List RoundEvent}
      (delegated : Delegated orchestrator.session request plan
        (members.filter fun m => !m.isOrchestrator)
        (Delegation.assignments plan
          ((members.filter fun m => !m.isOrchestrator).map (·.session))) progress underWay log) :
      Stage request progress underWay
        (sending [planningOf group members orchestrator request] ++
          .ended orchestrator.session (planningOf group members orchestrator request).prompt
            (.ok plan) :: log)

/-- Every course of a round is at one of its stages. -/
theorem Course.stage {request : String} {progress : RoundProgress} {underWay : List LanePrompt}
    {log : List RoundEvent} (led : members.filter (·.isOrchestrator) = [orchestrator])
    (course : Course (Round.start group members request) progress underWay log) :
    Stage group members orchestrator request progress underWay log := by
  have leader : members.find? (·.isOrchestrator) = some orchestrator := by
    rw [← List.head?_filter, led, List.head?_cons]
  have opening : Round.start group members request =
      .going (.planning orchestrator.session request (members.filter fun m => !m.isOrchestrator))
        [planningOf group members orchestrator request] := by
    simp only [Round.start, leader]
    rfl
  -- The course starts from a term; the induction wants a variable in its place.
  generalize Round.start group members request = started at opening course
  subst opening
  induction course with
  | opened => exact .planning
  | @ended round prompts underWay log next course p result mem received ih =>
    subst received
    cases ih with
    | planning =>
      obtain rfl := List.mem_singleton.1 mem
      rw [List.erase_cons_head]
      cases result with
      | error failure => exact .unplanned failure
      | ok plan => exact .planned (Delegated.start _ _ _ _)
    | planned delegated =>
      rw [List.append_assoc, List.cons_append]
      exact .planned (delegated.receive mem result)

/-- After a plan, every course of a round is at one of the stages of its work. -/
theorem Course.delegated {request plan : String} {progress : RoundProgress}
    {underWay : List LanePrompt} {log : List RoundEvent}
    (led : members.filter (·.isOrchestrator) = [orchestrator])
    (course : Course (Round.start group members request) progress underWay
      (sending [planningOf group members orchestrator request] ++
        .ended orchestrator.session (planningOf group members orchestrator request).prompt
          (.ok plan) :: log)) :
    let workers := members.filter fun m => !m.isOrchestrator
    Delegated orchestrator.session request plan workers
      (Delegation.assignments plan (workers.map (·.session))) progress underWay log := by
  have stage := course.stage led
  simp only [sending, List.map_cons, List.map_nil, List.cons_append, List.nil_append] at stage
  generalize events : RoundEvent.sent _ _ :: _ = log' at stage
  cases stage with
  | planning => cases events
  | unplanned => cases events
  | planned delegated =>
    cases events
    exact delegated

/-- Assignments are for members that are not the orchestrator, each under the persona of its
worker. -/
theorem worker_of_assignment (distinct : (members.map (·.session)).Nodup)
    (led : members.filter (·.isOrchestrator) = [orchestrator]) {plan : String} {a : Assignment}
    (mem : a ∈ Delegation.assignments plan
      ((members.filter fun m => !m.isOrchestrator).map (·.session))) :
    a.worker ≠ orchestrator.session ∧
      ∃ w ∈ members, w.isOrchestrator = false ∧ w.session = a.worker ∧
        promptFor (members.filter fun m => !m.isOrchestrator) a = withPersona w.persona a.task := by
  have named : a.worker ∈ (members.filter fun m => !m.isOrchestrator).map (·.session) :=
    worker_mem mem
  obtain ⟨w, found⟩ : ∃ w, (members.filter fun m => !m.isOrchestrator).find?
      (·.session == a.worker) = some w := by
    obtain ⟨w, mem, same⟩ := List.mem_map.1 named
    exact Option.isSome_iff_exists.1 (List.find?_isSome.2 ⟨w, mem, by simpa using same⟩)
  have same : w.session = a.worker := by simpa using List.find?_some found
  obtain ⟨mem, works⟩ := List.mem_filter.1 (List.mem_of_find?_eq_some found)
  have works : w.isOrchestrator = false := by simpa using works
  obtain ⟨member, leads⟩ : orchestrator ∈ members ∧ orchestrator.isOrchestrator = true :=
    List.mem_filter.1 (by rw [led]; exact List.mem_cons_self)
  refine ⟨fun eq => ?_, w, mem, works, same, ?_⟩
  · have : w = orchestrator := List.inj_on_of_nodup_map distinct mem member (same.trans eq)
    rw [this, leads] at works
    cases works
  · rw [promptFor, found]
    rfl

/-- A round of a group with distinct members, of which one is the orchestrator, follows the plan of
the orchestrator in every course, whatever comes of the prompts.

Each assignment of the plan is for a member that is not the orchestrator.  If there is none, nothing
is sent, and the round is over with the plan.  Otherwise events are about members with an assignment
(`work`) and then about the orchestrator (`rest`).  Each session is sent the prompts of its
assignments in the order of the plan, one when the one before has ended, whatever came of that.  As
long as turns of workers are under way, there is nothing else.  When all have ended, one prompt was
sent for each assignment to its worker, and there is one result for each, worker by worker in the
order in which the plan first names them; these the orchestrator combines. -/
theorem round_follows_plan {request plan : String} {progress : RoundProgress}
    {underWay : List LanePrompt} {log : List RoundEvent}
    (distinct : (members.map (·.session)).Nodup)
    (led : members.filter (·.isOrchestrator) = [orchestrator])
    (course : Course (start group members request) progress underWay
      (sending [planningOf group members orchestrator request] ++
        .ended orchestrator.session (planningOf group members orchestrator request).prompt
          (.ok plan) :: log)) :
    let workers := members.filter fun m => !m.isOrchestrator
    let assigned := Delegation.assignments plan (workers.map (·.session))
    (∀ a ∈ assigned, a.worker ≠ orchestrator.session ∧
      ∃ w ∈ members, w.isOrchestrator = false ∧ w.session = a.worker ∧
        promptFor workers a = withPersona w.persona a.task) ∧
    (assigned = [] → log = [] ∧ progress = .over (.ok ⟨plan, [], [], plan⟩)) ∧
    (assigned ≠ [] → ∃ (outcomes : String → List (Attempt String)) (work rest : List RoundEvent),
      log = work ++ rest ∧
      (∀ event ∈ work, ∃ a ∈ assigned, a.worker = event.session) ∧
      (∀ session, work.filter (·.session == session) =
        turns session (promptsFor workers assigned session) (outcomes session)) ∧
      ((rest = [] ∧ (∃ round prompts, progress = .going round prompts) ∧
          ∃ p ∈ underWay, (promptsFor workers assigned p.session)[(outcomes p.session).length]? =
            some p.prompt) ∨
        let results := resultsOf assigned outcomes
        let combining := combiningPrompt request results
        (∀ session,
          (outcomes session).length = (promptsFor workers assigned session).length) ∧
        (work.filterMap RoundEvent.sent?).Perm
          (assigned.map fun a => (a.worker, promptFor workers a)) ∧
        (results.map (·.session)).Perm (assigned.map (·.worker)) ∧
        ((underWay = [⟨0, orchestrator.session, combining⟩] ∧
            rest = [.sent orchestrator.session combining]) ∨
          ∃ result, rest = [.sent orchestrator.session combining,
              .ended orchestrator.session combining result] ∧
            progress = .over
              (result.map fun synthesis => ⟨plan, assigned, results, synthesis⟩)))) := by
  intro workers assigned
  refine ⟨fun a mem => worker_of_assignment distinct led mem, ?_⟩
  have delegated := course.delegated led
  cases delegated with
  | nothing idle => exact ⟨fun _ => ⟨rfl, rfl⟩, fun tasked => absurd idle tasked⟩
  | @working outcomes _ _ _ _ tasked working busy _ =>
    refine ⟨fun idle => absurd idle tasked, fun _ => ⟨outcomes, log, [], (List.append_nil _).symm,
      fun event mem => working.exists_assignment mem, working.told, .inl ⟨rfl, ⟨_, _, rfl⟩, ?_⟩⟩⟩
    obtain ⟨p, rest, rfl⟩ := List.exists_cons_of_ne_nil busy
    obtain ⟨_, _, -, -, next⟩ := working.next_of_mem List.mem_cons_self
    exact ⟨p, List.mem_cons_self, next⟩
  | @combining outcomes _ _ work tasked working results_eq =>
    subst results_eq
    exact ⟨fun idle => absurd idle tasked, fun _ => ⟨outcomes, work, _, rfl,
      fun event mem => working.exists_assignment mem, working.told,
      .inr ⟨working.underWay_eq_nil.1 rfl, working.sent_perm, working.resultsOf_perm,
        .inl ⟨rfl, rfl⟩⟩⟩⟩
  | @combined outcomes _ work tasked working results_eq result =>
    subst results_eq
    exact ⟨fun idle => absurd idle tasked, fun _ => ⟨outcomes, work, _, rfl,
      fun event mem => working.exists_assignment mem, working.told,
      .inr ⟨working.underWay_eq_nil.1 rfl, working.sent_perm, working.resultsOf_perm,
        .inr ⟨result, rfl, rfl⟩⟩⟩⟩

/-- A worker fails at one task and is sent the next, while another works; then the orchestrator
combines. -/
theorem failed_task_stops_nobody :
    let team : Id := ⟨7⟩
    let lead : Member := ⟨"lead", team, .orchestrator, none, none⟩
    let a : Member := ⟨"a", team, .worker, none, some " You are A. "⟩
    let b : Member := .create "b" team
    let group := Group.create team "team" .orchestrator true ⟨0, 0⟩
    let plan := "@worker:A one @end @worker:b two @end @worker:ghost boo @end @worker:a three @end"
    let failure := Failure.turnFailed "a" "timeout"
    let planning := planningOf group [lead, a, b] lead "go"
    let combining := combiningPrompt "go"
      [⟨"a", .error failure⟩, ⟨"a", .ok "3"⟩, ⟨"b", .ok "2"⟩]
    let log : List RoundEvent :=
      [.sent "a" "You are A.\n\none", .sent "b" "two", .ended "b" "two" (.ok "2"),
        .ended "a" "You are A.\n\none" (.error failure), .sent "a" "You are A.\n\nthree",
        .ended "a" "You are A.\n\nthree" (.ok "3"), .sent "lead" combining]
    ([lead, a, b].map (·.session)).Nodup ∧ [lead, a, b].filter (·.isOrchestrator) = [lead] ∧
      (∃ round prompts, Course (start group [lead, a, b] "go") (.going round prompts)
        [⟨0, "lead", combining⟩]
        (sending [planning] ++ .ended "lead" planning.prompt (.ok plan) :: log)) ∧
      ∃ work rest, log = work ++ rest ∧ (work.filterMap RoundEvent.sent?).Perm
        [("a", "You are A.\n\none"), ("b", "two"), ("a", "You are A.\n\nthree")] := by
  intro team lead a b group plan failure planning combining log
  have distinct : ([lead, a, b].map (·.session)).Nodup := by decide
  have led : [lead, a, b].filter (·.isOrchestrator) = [lead] := rfl
  have assigned : Delegation.assignments plan ["a", "b"] =
      [⟨"a", "one"⟩, ⟨"b", "two"⟩, ⟨"a", "three"⟩] := by decide +kernel
  let one : LanePrompt := ⟨0, "a", "You are A.\n\none"⟩
  let two : LanePrompt := ⟨1, "b", "two"⟩
  let three : LanePrompt := ⟨0, "a", "You are A.\n\nthree"⟩
  have planned : delegate "lead" "go" [a, b] plan =
      .going (.working "lead" "go" plan [⟨"a", "one"⟩, ⟨"b", "two"⟩, ⟨"a", "three"⟩]
        [⟨"a", [], [one.prompt, three.prompt]⟩, ⟨"b", [], [two.prompt]⟩]) [one, two] := by
    simp only [delegate]
    rw [show [a, b].map (·.session) = ["a", "b"] from rfl, assigned]
    rfl
  have start : Course (start group [lead, a, b] "go") (.going (.planning "lead" "go" [a, b])
      [planning]) [planning] (sending [planning]) := .opened
  have delegated := start.ended planning (.ok plan) List.mem_cons_self planned
  rw [List.erase_cons_head] at delegated
  have others := delegated.ended two (.ok "2") (List.mem_cons_of_mem _ List.mem_cons_self) rfl
  have failed := others.ended one (.error failure) List.mem_cons_self rfl
  have course := failed.ended three (.ok "3") List.mem_cons_self rfl
  have course : Course (Round.start group [lead, a, b] "go") (.going
      (.combining "lead" plan [⟨"a", "one"⟩, ⟨"b", "two"⟩, ⟨"a", "three"⟩]
        [⟨"a", .error failure⟩, ⟨"a", .ok "3"⟩, ⟨"b", .ok "2"⟩]) [⟨0, "lead", combining⟩])
      [⟨0, "lead", combining⟩]
      (sending [planning] ++ .ended "lead" planning.prompt (.ok plan) :: log) := course
  obtain ⟨-, -, follows⟩ := round_follows_plan distinct led course
  rw [show ([lead, a, b].filter fun m => !m.isOrchestrator).map (·.session) = ["a", "b"] from rfl,
    assigned] at follows
  obtain ⟨outcomes, work, rest, split, -, -, ended⟩ := follows (by decide)
  refine ⟨distinct, led, ⟨_, _, course⟩, work, rest, split, ?_⟩
  rcases ended with ⟨-, -, p, mem, next⟩ | ⟨-, sent, -⟩
  · obtain rfl := List.mem_singleton.1 mem
    cases next
  · exact sent

end Course

end Round

end Ensemble.Coordination
