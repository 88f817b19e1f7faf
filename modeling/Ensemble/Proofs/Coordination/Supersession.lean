import Ensemble.Coordination.Run
import Ensemble.Proofs.Organization.Steering

/-!
# Loops whose cycle was replaced

Several loops may work on the cycle of one group while others start, replace, pause, resume and stop
that cycle or delete the group.  A scene holds the organization and the runs, and what happens in it
happens one at a time: whoever looks at the organization changes it in the same moment.

The argument has three parts.  A loop changes the cycle of its group only if that has the identifier
the loop holds (`Loop.touch_organization`), and it never holds another (`Loop.touch_keeps`,
`Loop.hear_keeps`).  As identifiers are not used again, a cycle that was replaced does not come back
(`Scene.perform_gone`).  And a loop that does not find its cycle reports so, whatever happens until
it does (`Leaving`).  `superseded_loops` puts these together for everything that may happen.
-/

namespace Ensemble.Coordination

open Organization (CycleStep)
open Reflection (Cycle LoopOutcome)

/-! ## One loop -/

namespace Loop

variable {l : Loop} {o : Organization}

/-- Whether a loop is about to begin, to conclude or to give back an iteration. -/
def turnsOver (l : Loop) : Bool :=
  match l.stage with
  | .beginning => true
  | .concluding _ => true
  | .framing _ _ => true
  | .scoring _ _ _ => true
  | .retrying => true
  | _ => false

/-- The report of a loop whose cycle was replaced. -/
def supersededReport (l : Loop) : LoopReport :=
  ⟨l.cycle, .superseded, 0, replacedSummary, l.finalResponse⟩

/-- What an update makes of an organization: nothing, or the cycle of the group has the identifier
that was asked for and keeps it. -/
theorem updateCycle_organization {α : Type} (o : Organization) (group cycle : Id)
    {f : Cycle → α × Cycle} (same : ∀ c, (f c).2.id = c.id) :
    (o.updateCycle group cycle f).2 = o ∨
      ∃ c c', o.cycle? group = some c ∧ c.id = cycle ∧ c'.id = cycle ∧
        (o.updateCycle group cycle f).2 = o.putCycle group c' := by
  cases current : o.currentCycle? group cycle with
  | none => exact .inl (by rw [Organization.updateCycle_of_ne current])
  | some c =>
    obtain ⟨found, named⟩ := Organization.currentCycle?_eq_some_iff.1 current
    exact .inr ⟨c, (f c).2, found, named, (same c).trans named,
      by rw [Organization.updateCycle, current]⟩

/-- A loop changes nothing but the cycle of its group, and that only if it has the identifier that
the loop holds. -/
theorem touch_organization (l : Loop) (o : Organization) (now : Timestamp) :
    (l.touch o now).organization = o ∨
      ∃ c c', o.cycle? l.group = some c ∧ c.id = l.cycle ∧ c'.id = l.cycle ∧
        (l.touch o now).organization = o.putCycle l.group c' := by
  obtain ⟨group, cycle, passScore, finalResponse, stage⟩ := l
  cases stage with
  | beginning =>
    have updated := updateCycle_organization o group cycle Cycle.takeIteration_id
    simp only [touch]
    split <;> simpa only [*] using updated
  | concluding response =>
    exact updateCycle_organization o group cycle (f := fun c => c.conclude response now)
      fun c => c.conclude_id now response
  | framing response evaluator =>
    have updated := updateCycle_organization o group cycle
      (f := fun c => (c.evaluatorPrompt response, c)) fun _ => rfl
    simp only [touch]
    split <;> simpa only [*] using updated
  | scoring response evaluation model =>
    exact updateCycle_organization o group cycle
      (f := fun c => c.concludeWith response evaluation (some model) now)
      fun c => c.concludeWith_id now response evaluation (some model)
  | retrying =>
    exact updateCycle_organization o group cycle (f := fun c => c.retry now)
      fun c => c.retry_id now
  | addressing report =>
    simp only [touch]
    split <;> exact .inl rfl
  | _ => exact .inl rfl

/-- A loop that does not find its cycle is to report so. -/
theorem touch_of_superseded (turnsOver : l.turnsOver = true)
    (gone : o.currentCycle? l.group l.cycle = none) (now : Timestamp) :
    l.touch o now = ⟨l.moveTo (.reporting .superseded false), [], o⟩ := by
  obtain ⟨group, cycle, passScore, finalResponse, stage⟩ := l
  -- at each stage that turns the cycle over, the update finds no cycle and the loop reports
  cases stage with
  | beginning | concluding | framing | scoring | retrying =>
    simp only [touch, Organization.updateCycle_of_ne gone, concluded, decided]
  | _ => cases turnsOver

/-- A loop that reports that its cycle was superseded is over. -/
theorem touch_of_reporting (stage : l.stage = .reporting .superseded false)
    (gone : o.currentCycle? l.group l.cycle = none) (now : Timestamp) :
    l.touch o now = ⟨l.moveTo (.over l.supersededReport), [], o⟩ := by
  simp only [touch, stage, report, gone]
  rfl

/-- Loops that work on the same cycle of the same group. -/
structure SameCycle (l l' : Loop) : Prop where
  group : l'.group = l.group
  cycle : l'.cycle = l.cycle

namespace SameCycle

theorem refl (l : Loop) : SameCycle l l := ⟨rfl, rfl⟩

theorem moveTo (l : Loop) (stage : LoopStage) : SameCycle l (l.moveTo stage) := ⟨rfl, rfl⟩

/-- What follows from a decision is about the same cycle. -/
theorem decided (l : Loop) (decision : Option Reflection.Decision) :
    SameCycle l (l.decided decision) := by
  unfold Loop.decided
  split
  · exact moveTo l _
  · split <;> exact moveTo l _

/-- What follows from a conclusion is about the same cycle. -/
theorem concluded (l : Loop) (response : String) (decision : Option Reflection.Decision) :
    SameCycle l (l.concluded response decision) := by
  cases decision with
  | none => exact decided l none
  | some decision =>
    have same := decided { l with finalResponse := some response } (some decision)
    exact ⟨same.group, same.cycle⟩

/-- Going on with a round is about the same cycle. -/
theorem followRound (l : Loop) (evaluator : Option String) (progress : RoundProgress) :
    SameCycle l (l.followRound evaluator progress).1 := by
  match progress, evaluator with
  | .going _ _, _ => exact moveTo l _
  | .over (.ok _), none => exact moveTo l _
  | .over (.ok _), some _ => exact moveTo l _
  | .over (.error _), _ => exact moveTo l _

end SameCycle

/-- A loop stays with its cycle when it looks at the organization. -/
theorem touch_keeps (l : Loop) (o : Organization) (now : Timestamp) :
    SameCycle l (l.touch o now).loop := by
  cases stage : l.stage with
  | beginning =>
    simp only [touch, stage]
    split <;> exact .moveTo l _
  | gathering prompt evaluator =>
    simp only [touch, stage]
    cases o.gather l.group with
    | error failure => exact .moveTo l _
    | ok found => exact .followRound l _ _
  | concluding | scoring =>
    simp only [touch, stage]
    exact .concluded l _ _
  | framing =>
    simp only [touch, stage]
    split
    next => exact .decided l none
    next => exact .moveTo l _
  | retrying =>
    simp only [touch, stage]
    exact .decided l _
  | reporting =>
    simp only [touch, stage]
    exact .moveTo l _
  | addressing =>
    simp only [touch, stage]
    split <;> exact .moveTo l _
  | _ =>
    simp only [touch, stage]
    exact .refl l

/-- A loop stays with its cycle when it takes in an answer. -/
theorem hear_keeps (l : Loop) (heard : Heard) : SameCycle l (l.hear heard).1 := by
  unfold hear
  split
  next => exact .followRound l _ _
  next => exact .moveTo l _
  next => exact .moveTo l _
  next => exact .moveTo l _
  next => exact .moveTo l _
  next => exact .moveTo l _
  next => exact .refl l

end Loop

/-! ## One run -/

namespace Run

variable {r : Run} {group : Id}

/-- The loop of a run that works on a cycle. -/
def loop? (r : Run) : Option Loop :=
  match r.stage with
  | .looping l => some l
  | _ => none

/-- A run of the same group that does not work on a cycle. -/
structure Aside (r r' : Run) : Prop where
  group : r'.group = r.group
  idle : r'.loop? = none

namespace Aside

/-- A run that moves to a stage without a loop is aside. -/
theorem moveTo (r : Run) {stage : RunStage} (idle : (r.moveTo stage).loop? = none) :
    Aside r (r.moveTo stage) :=
  ⟨rfl, idle⟩

/-- A run that is aside is at no stage with a loop. -/
theorem not_looping {r r' : Run} (aside : Aside r r') {l : Loop} : r'.stage ≠ .looping l := by
  intro looping
  have idle := aside.idle
  rw [loop?, looping] at idle
  cases idle

/-- Going on with lanes, a run is aside. -/
theorem followLanes (r : Run) (lanes : List Lane) (prompts : List LanePrompt) :
    Aside r (r.followLanes lanes prompts).1 := by
  unfold Run.followLanes
  split <;> exact moveTo r rfl

/-- Going on with a chain, a run is aside. -/
theorem followChain (r : Run) (chain : Attempt Chain) : Aside r (r.followChain chain).1 := by
  unfold Run.followChain
  split
  next => exact moveTo r rfl
  next => split <;> exact moveTo r rfl

/-- Going on with a round of its own, a run is aside. -/
theorem followRound (r : Run) (progress : RoundProgress) :
    Aside r (r.followRound progress).1 := by
  cases progress <;> exact moveTo r rfl

/-- Whatever the mode of its group is, a run that enters it works on no cycle yet. -/
theorem enter (r : Run) (g : Group) (members : List Member) :
    Aside r (r.enter g members).1 := by
  unfold Run.enter
  split
  next => exact followLanes r _ _
  next => exact followChain r _
  next => exact followRound r _
  next => exact moveTo r rfl

end Aside

/-- A run of a group, which works on the cycle of that group if it works on one. -/
structure Of (group : Id) (r : Run) : Prop where
  own : r.group = group
  loop : ∀ l, r.stage = .looping l → l.group = group

/-- A run of a group has gone on: if it works on a cycle, then on the one it worked on before or on
one it has come upon. -/
structure Follows (group : Id) (upon : List Id) (r r' : Run) : Prop where
  own : r'.Of group
  loop : ∀ l', r'.stage = .looping l' →
    (∃ l, r.stage = .looping l ∧ l.SameCycle l') ∨ l'.cycle ∈ upon

namespace Follows

variable {upon : List Id}

/-- A run that is left as it is has gone on. -/
theorem refl (own : r.Of group) : Follows group upon r r :=
  ⟨own, fun l looping => .inl ⟨l, looping, .refl l⟩⟩

/-- A run that is aside has gone on, as it works on no cycle. -/
theorem of_aside {r' : Run} (own : r.Of group) (aside : Aside r r') : Follows group upon r r' :=
  ⟨⟨aside.group.trans own.own, fun _ looping => absurd looping aside.not_looping⟩,
    fun _ looping => absurd looping aside.not_looping⟩

/-- A run comes upon a cycle. -/
theorem start (own : r.Of group) {cycle : Id} (mem : cycle ∈ upon) (passScore : Binary64) :
    Follows group upon r (r.moveTo (.looping (.start r.group cycle passScore))) where
  own := ⟨own.own, fun l looping => by cases looping; exact own.own⟩
  loop := fun l looping => .inr (by cases looping; exact mem)

/-- The loop of a run goes on. -/
theorem followLoop (own : r.Of group) {l l' : Loop} (stage : r.stage = .looping l)
    (same : l.SameCycle l') : Follows group upon r (r.followLoop l') := by
  unfold Run.followLoop
  split
  next => exact of_aside own (.moveTo r rfl)
  next =>
    refine ⟨⟨own.own, fun l'' looping => ?_⟩, fun l'' looping => .inl ⟨l, stage, ?_⟩⟩
    · cases looping
      exact same.group.trans (own.loop l stage)
    · cases looping
      exact same

end Follows

/-- A run takes in an answer. -/
theorem hear_follows (own : r.Of group) (heard : Heard) : Follows group [] r (r.hear heard).1 := by
  cases stage : r.stage with
  -- only responses and the ends of turns concern a run that works on no cycle
  | broadcasting =>
    cases heard <;> simp only [hear, stage]
    · exact .of_aside own (.followLanes r _ _)
    · exact .refl own
    · exact .refl own
  | chaining =>
    cases heard <;> simp only [hear, stage]
    · exact .of_aside own (.followChain r _)
    · exact .refl own
    · exact .refl own
  | rounding =>
    cases heard <;> simp only [hear, stage]
    · exact .of_aside own (.followRound r _)
    · exact .refl own
    · exact .refl own
  | looping l =>
    simp only [hear, stage]
    exact .followLoop own stage (l.hear_keeps heard)
  | _ =>
    simp only [hear, stage]
    exact .refl own

/-- A run looks at the organization: it may come upon the cycle of its group or start one. -/
theorem touch_follows (own : r.Of group) (o : Organization) (fresh : Id) (now : Timestamp) :
    CycleStep group [fresh] o (r.touch o fresh now).organization ∧
      Follows group (((o.cycle? group).map (·.id)).toList ++ [fresh]) r
        (r.touch o fresh now).run := by
  cases stage : r.stage with
  | opening =>
    simp only [touch, stage]
    cases o.gather r.group with
    | error failure => exact ⟨.refl .., .of_aside own (.moveTo r rfl)⟩
    | ok found => exact ⟨.refl .., .of_aside own (.enter r _ _)⟩
  | joining =>
    simp only [touch, stage]
    split
    next c found =>
      obtain ⟨found, -⟩ := Option.filter_eq_some_iff.1 found
      rw [own.own] at found
      refine ⟨.refl .., .start own ?_ _⟩
      simp [found]
    next => exact ⟨.refl .., .of_aside own (.moveTo r rfl)⟩
  | replacing =>
    have step : CycleStep group [fresh] o
        (o.startCycle r.settings r.group r.request none fresh now).2 := by
      rw [own.own]
      exact .startCycle _ _ _ List.mem_cons_self _
    simp only [touch, stage]
    split
    next after eq =>
      rw [eq] at step
      exact ⟨step, .of_aside own (.moveTo r rfl)⟩
    next id after eq =>
      obtain rfl := Organization.startCycle_answer (congrArg Prod.fst eq)
      rw [eq] at step
      exact ⟨step, .start own (List.mem_append_right _ List.mem_cons_self) _⟩
  | looping l =>
    simp only [touch, stage]
    refine ⟨?_, .followLoop own stage (l.touch_keeps o now)⟩
    -- The loop leaves the cycle alone or writes one back under the same id.
    rcases l.touch_organization o now with same | ⟨c, c', found, named, kept, put⟩
    · rw [same]
      exact .refl ..
    · rw [put, own.loop l stage]
      rw [own.loop l stage] at found
      exact .putCycle found (kept.trans named.symm)
  | _ =>
    simp only [touch, stage]
    exact ⟨.refl .., .refl own⟩

end Run

/-! ## Scenes -/

/-- An organization, and runs that work in one of its groups. -/
structure Scene where
  organization : Organization
  runs : List Run

/-- What may happen in a scene.  An identifier stands for the cycle that may be started with it. -/
inductive Happening where
  /-- Another run of the group is started. -/
  | join (request : String) (settings : ReflectionSettings)
  /-- The run at a place looks at the organization. -/
  | touch (place : Nat) (fresh : Id) (now : Timestamp)
  /-- The run at a place takes in an answer. -/
  | hear (place : Nat) (heard : Heard)
  /-- Somebody gives the group a new cycle. -/
  | start (settings : ReflectionSettings) (goal : String) (evaluator : Option String) (fresh : Id)
      (now : Timestamp)
  /-- Somebody gives the group a cycle or takes it away. -/
  | replace (cycle : Option Cycle)
  | pause
  | resume
  | stop (now : Timestamp)
  /-- Somebody deletes the group. -/
  | delete

/-- The identifiers of the cycles that may come up. -/
def Happening.brought : Happening → List Id
  | touch _ fresh _ => [fresh]
  | start _ _ _ fresh _ => [fresh]
  | replace cycle => (cycle.map (·.id)).toList
  | _ => []

namespace Scene

variable {group : Id} {s : Scene} {place : Nat} {r : Run}

/-- Lets something happen. -/
def perform (group : Id) (s : Scene) : Happening → Scene
  | .join request settings => { s with runs := s.runs ++ [.start group request settings] }
  | .touch place fresh now =>
    match s.runs[place]? with
    | none => s
    | some r =>
      let touched := r.touch s.organization fresh now
      ⟨touched.organization, s.runs.set place touched.run⟩
  | .hear place heard =>
    match s.runs[place]? with
    | none => s
    | some r => { s with runs := s.runs.set place (r.hear heard).1 }
  | .start settings goal evaluator fresh now =>
    { s with
      organization := (s.organization.startCycle settings group goal evaluator fresh now).2 }
  | .replace cycle => { s with organization := (s.organization.setReflection group cycle).2 }
  | .pause => { s with organization := (s.organization.pauseCycle group).2 }
  | .resume => { s with organization := (s.organization.resumeCycle group).2 }
  | .stop now => { s with organization := (s.organization.stopCycle group now).2 }
  | .delete => { s with organization := (s.organization.deleteGroup group).2 }

/-- Lets one thing happen after another. -/
def after (group : Id) (s : Scene) (happenings : List Happening) : Scene :=
  happenings.foldl (perform group) s

/-- The identifier of the cycle of the group, if it has one. -/
def current (group : Id) (s : Scene) : List Id :=
  ((s.organization.cycle? group).map (·.id)).toList

/-- How a run may change when something happens. -/
inductive Moved (o : Organization) (h : Happening) (r : Run) : Run → Prop where
  | same : Moved o h r r
  | touched {place : Nat} {fresh : Id} {now : Timestamp} (eq : h = .touch place fresh now) :
      Moved o h r (r.touch o fresh now).run
  | heard (heard : Heard) : Moved o h r (r.hear heard).1

/-- Whatever happens to a run of a group, it goes on as such. -/
theorem Moved.follows {o : Organization} {h : Happening} {r' : Run} (moved : Moved o h r r')
    (own : r.Of group) :
    Run.Follows group (((o.cycle? group).map (·.id)).toList ++ h.brought) r r' := by
  cases moved with
  | same => exact .refl own
  | @touched _ fresh now eq =>
    subst eq
    exact (Run.touch_follows own o fresh now).2
  | heard heard =>
    have follows := Run.hear_follows own heard
    exact ⟨follows.own, fun l looping => .inl ((follows.loop l looping).resolve_right nofun)⟩

/-- A run that looks at the organization is where it was. -/
theorem perform_touch (there : s.runs[place]? = some r) (fresh : Id) (now : Timestamp) :
    s.perform group (.touch place fresh now) =
      ⟨(r.touch s.organization fresh now).organization,
        s.runs.set place (r.touch s.organization fresh now).run⟩ := by
  simp only [perform, there]

/-- The run that is touched is the one in its place. -/
theorem perform_touch_run (there : s.runs[place]? = some r) (fresh : Id) (now : Timestamp) :
    (s.perform group (.touch place fresh now)).runs[place]? =
      some (r.touch s.organization fresh now).run := by
  rw [perform_touch there]
  exact List.getElem?_set_self (List.getElem?_eq_some_iff.1 there).1

/-- Only the run that hears of something is changed by that. -/
theorem perform_hear (there : s.runs[place]? = some r) (heard : Heard) :
    s.perform group (.hear place heard) =
      { s with runs := s.runs.set place (r.hear heard).1 } := by
  simp only [perform, there]

/-- Nothing happens where no run is. -/
theorem perform_of_none (nobody : s.runs[place]? = none) :
    (∀ fresh now, s.perform group (.touch place fresh now) = s) ∧
      ∀ heard, s.perform group (.hear place heard) = s :=
  ⟨fun fresh now => by simp only [perform, nobody], fun heard => by simp only [perform, nobody]⟩

/-- Every run stays at its place. -/
theorem perform_run (group : Id) (there : s.runs[place]? = some r) (h : Happening) :
    ∃ r', (s.perform group h).runs[place]? = some r' ∧ Moved s.organization h r r' := by
  have inside : place < s.runs.length := (List.getElem?_eq_some_iff.1 there).1
  cases h with
  | join => exact ⟨r, (List.getElem?_append_left inside).trans there, .same⟩
  | touch place' fresh now =>
    cases found : s.runs[place']? with
    | none =>
      rw [(perform_of_none found).1]
      exact ⟨r, there, .same⟩
    | some r' =>
      rw [perform_touch found]
      -- Another run may move while this one stays as it is.
      by_cases here : place' = place
      · subst here
        cases found.symm.trans there
        exact ⟨_, List.getElem?_set_self inside, .touched rfl⟩
      · exact ⟨r, (List.getElem?_set_ne here).trans there, .same⟩
  | hear place' heard =>
    cases found : s.runs[place']? with
    | none =>
      rw [(perform_of_none found).2]
      exact ⟨r, there, .same⟩
    | some r' =>
      rw [perform_hear found]
      by_cases here : place' = place
      · subst here
        cases found.symm.trans there
        exact ⟨_, List.getElem?_set_self inside, .heard heard⟩
      · exact ⟨r, (List.getElem?_set_ne here).trans there, .same⟩
  | _ => exact ⟨r, there, .same⟩

/-- Every run was there before, or has just been started. -/
theorem exists_of_mem_perform {h : Happening} {r' : Run} (mem : r' ∈ (s.perform group h).runs) :
    (∃ r ∈ s.runs, Moved s.organization h r r') ∨
      ∃ request settings, r' = .start group request settings := by
  cases h with
  | join request settings =>
    rcases List.mem_append.1 mem with old | new
    · exact .inl ⟨r', old, .same⟩
    · exact .inr ⟨request, settings, List.mem_singleton.1 new⟩
  | touch place fresh now =>
    cases found : s.runs[place]? with
    | none =>
      rw [(perform_of_none found).1] at mem
      exact .inl ⟨r', mem, .same⟩
    | some r =>
      rw [perform_touch found] at mem
      rcases List.mem_or_eq_of_mem_set mem with old | rfl
      · exact .inl ⟨r', old, .same⟩
      · exact .inl ⟨r, List.mem_of_getElem? found, .touched rfl⟩
  | hear place heard =>
    cases found : s.runs[place]? with
    | none =>
      rw [(perform_of_none found).2] at mem
      exact .inl ⟨r', mem, .same⟩
    | some r =>
      rw [perform_hear found] at mem
      rcases List.mem_or_eq_of_mem_set mem with old | rfl
      · exact .inl ⟨r', old, .same⟩
      · exact .inl ⟨r, List.mem_of_getElem? found, .heard heard⟩
  | _ => exact .inl ⟨r', mem, .same⟩

/-- What is known of a scene in which `known` are the identifiers of cycles that have come up: the
group has one of these, and so does every run that works on a cycle. -/
structure Sound (group : Id) (known : List Id) (s : Scene) : Prop where
  once : (s.organization.groups.map (·.id)).Nodup
  current : ∀ id ∈ s.current group, id ∈ known
  runs : ∀ r ∈ s.runs, r.Of group
  loops : ∀ r ∈ s.runs, ∀ l, r.stage = .looping l → l.cycle ∈ known

namespace Sound

variable {known : List Id}

/-- Whatever happens does to the cycle of the group no more than `CycleStep` says. -/
theorem cycleStep (sound : s.Sound group known) (h : Happening) :
    CycleStep group h.brought s.organization (s.perform group h).organization := by
  cases h with
  | join => exact .refl ..
  | hear place heard =>
    simp only [perform]
    split <;> exact .refl ..
  | touch place fresh now =>
    cases found : s.runs[place]? with
    | none =>
      rw [(perform_of_none found).1]
      exact .refl ..
    | some r =>
      rw [perform_touch found]
      exact (Run.touch_follows (sound.runs r (List.mem_of_getElem? found)) _ fresh now).1
  | start settings goal evaluator fresh now => exact .startCycle _ _ _ List.mem_cons_self _
  | replace cycle =>
    refine .setReflection cycle fun c mem => ?_
    cases mem
    exact List.mem_cons_self
  | pause => exact .steerCycle Cycle.pause_id
  | resume => exact .steerCycle fun _ => rfl
  | stop now => exact .steerCycle fun c => c.stop_id now
  | delete => exact .deleteGroup sound.once

/-- What is known goes on to be known. -/
theorem perform (sound : s.Sound group known) (h : Happening) :
    (s.perform group h).Sound group (known ++ h.brought) := by
  have step := sound.cycleStep h
  have follows : ∀ r' ∈ (s.perform group h).runs, (∃ r ∈ s.runs,
      Run.Follows group (s.current group ++ h.brought) r r') ∨
        ∃ request settings, r' = .start group request settings := by
    intro r' mem
    rcases exists_of_mem_perform mem with ⟨r, old, moved⟩ | new
    · exact .inl ⟨r, old, moved.follows (sound.runs r old)⟩
    · exact .inr new
  refine ⟨step.ids.nodup sound.once, fun id mem => ?_, fun r' mem => ?_,
    fun r' mem l' looping => ?_⟩
  · rcases step.cycle id (Option.mem_toList.1 mem) with old | new
    · exact List.mem_append_left _ (sound.current id (Option.mem_toList.2 old))
    · exact List.mem_append_right _ new
  · rcases follows r' mem with ⟨r, -, follows⟩ | ⟨request, settings, rfl⟩
    · exact follows.own
    · exact ⟨rfl, fun l looping => by cases looping⟩
  · rcases follows r' mem with ⟨r, old, follows⟩ | ⟨request, settings, rfl⟩
    · -- A loop under way keeps its cycle; a new one takes the current cycle or a fresh one.
      rcases follows.loop l' looping with ⟨l, before, same⟩ | upon
      · rw [same.cycle]
        exact List.mem_append_left _ (sound.loops r old l before)
      · rcases List.mem_append.1 upon with current | brought
        · exact List.mem_append_left _ (sound.current _ current)
        · exact List.mem_append_right _ brought
    · cases looping

/-- What is known after one thing has happened after another. -/
theorem after (sound : s.Sound group known) (happenings : List Happening) :
    (s.after group happenings).Sound group (known ++ happenings.flatMap (·.brought)) := by
  induction happenings generalizing s known with
  | nil => simpa [Scene.after] using sound
  | cons h rest ih =>
    have next := ih (sound.perform h)
    rw [List.append_assoc] at next
    exact next

end Sound

/-! ## A cycle that was replaced -/

/-- A cycle that the group does not have and that does not come up, the group does not have
afterwards. -/
theorem perform_gone {known : List Id} (sound : s.Sound group known) {cycle : Id}
    (gone : s.organization.currentCycle? group cycle = none) {h : Happening}
    (unused : cycle ∉ h.brought) :
    (s.perform group h).organization.currentCycle? group cycle = none := by
  rw [Organization.currentCycle?_eq_none_iff] at gone ⊢
  intro back
  rcases (sound.cycleStep h).cycle cycle back with old | new
  · exact gone old
  · exact unused new

/-- A run whose loop has worked on a cycle. -/
inductive Bound (group cycle : Id) (r : Run) : Prop where
  | looping {l : Loop} (stage : r.stage = .looping l) (own : l.group = group)
      (same : l.cycle = cycle)
  | ended {report : Attempt RunReport} (stage : r.stage = .over report)

namespace Bound

variable {cycle : Id} {o : Organization}

/-- A run that goes on with its loop is bound to the same cycle, or has ended. -/
theorem followLoop {l : Loop} (own : l.group = group) (same : l.cycle = cycle) :
    Bound group cycle (r.followLoop l) := by
  unfold Run.followLoop
  split
  next => exact .ended rfl
  next => exact .looping rfl own same

/-- Whatever happens to a run, it stays bound to its cycle. -/
theorem moved (bound : Bound group cycle r) {h : Happening} {r' : Run}
    (moved : Moved o h r r') : Bound group cycle r' := by
  cases bound with
  -- a loop keeps its group and its cycle in all that it does
  | @looping l stage own same =>
    cases moved with
    | same => exact .looping stage own same
    | @touched _ fresh now _ =>
      have keeps := l.touch_keeps o now
      simp only [Run.touch, stage]
      exact followLoop (keeps.group.trans own) (keeps.cycle.trans same)
    | heard heard =>
      have keeps := l.hear_keeps heard
      simp only [Run.hear, stage]
      exact followLoop (keeps.group.trans own) (keeps.cycle.trans same)
  | ended stage =>
    cases moved with
    | same => exact .ended stage
    | touched =>
      rw [Run.touch_of_over stage]
      exact .ended stage
    | heard =>
      rw [Run.hear_of_over stage]
      exact .ended stage

/-- Such a run leaves the organization alone if the group does not have the cycle. -/
theorem touch (bound : Bound group cycle r) (gone : o.currentCycle? group cycle = none)
    (fresh : Id) (now : Timestamp) : (r.touch o fresh now).organization = o := by
  cases bound with
  | @looping l stage own same =>
    simp only [Run.touch, stage]
    refine (l.touch_organization o now).resolve_right ?_
    rintro ⟨c, -, found, named, -⟩
    rw [Organization.currentCycle?_eq_none_iff, ← own, found] at gone
    exact gone (congrArg some (named.trans same))
  | ended stage => rw [Run.touch_of_over stage]

end Bound

/-- A run whose loop has not found its cycle, and is about to report so or has reported. -/
inductive Leaving (l : Loop) (r : Run) : Prop where
  | reporting (stage : r.stage = .looping (l.moveTo (.reporting .superseded false)))
  | reported (stage : r.stage = .over (.ok (.reflected l.supersededReport)))

namespace Leaving

variable {l : Loop} {o : Organization}

/-- When such a run looks at the organization once more, it has reported. -/
theorem touched (leaving : Leaving l r) (gone : o.currentCycle? l.group l.cycle = none)
    (fresh : Id) (now : Timestamp) :
    (r.touch o fresh now).run.stage = .over (.ok (.reflected l.supersededReport)) := by
  cases leaving with
  | reporting stage =>
    have reported :=
      Loop.touch_of_reporting (l := l.moveTo (.reporting .superseded false)) rfl gone now
    simp only [Run.touch, stage, reported]
    rfl
  | reported stage => rw [Run.touch_of_over stage, stage]

/-- Whatever happens to a loop that has lost its cycle, it goes on to report so. -/
theorem moved (leaving : Leaving l r) (gone : o.currentCycle? l.group l.cycle = none)
    {h : Happening} {r' : Run} (moved : Moved o h r r') : Leaving l r' := by
  cases moved with
  | same => exact leaving
  | touched => exact .reported (leaving.touched gone _ _)
  | heard heard =>
    cases leaving with
    | reporting stage =>
      refine .reporting ?_
      simp only [Run.hear, stage]
      rfl
    | reported stage =>
      rw [Run.hear_of_over stage]
      exact .reported stage

end Leaving

/-- What a run keeps as long as the group does not have a cycle, it keeps whatever happens, since
the cycle does not come back. -/
theorem after_keeps {cycle : Id} {P : Run → Prop}
    (keeps : ∀ {o : Organization} {h r r'}, o.currentCycle? group cycle = none → P r →
      Moved o h r r' → P r')
    {known : List Id} (sound : s.Sound group known)
    (gone : s.organization.currentCycle? group cycle = none) {happenings : List Happening}
    (unused : cycle ∉ happenings.flatMap (·.brought)) (there : s.runs[place]? = some r)
    (holds : P r) :
    (s.after group happenings).organization.currentCycle? group cycle = none ∧
      ∃ r', (s.after group happenings).runs[place]? = some r' ∧ P r' := by
  induction happenings generalizing s known r with
  | nil => exact ⟨gone, r, there, holds⟩
  | cons h rest ih =>
    rw [List.flatMap_cons, List.mem_append, not_or] at unused
    obtain ⟨r', there', moved⟩ := perform_run group there h
    exact ih (sound.perform h) (perform_gone sound gone unused.1) unused.2 there'
      (keeps gone holds moved)

/-- Once a run is over, it stays as it is. -/
theorem Moved.over {o : Organization} {h : Happening} {r' : Run} {report : Attempt RunReport}
    (moved : Moved o h r r') (stage : r.stage = .over report) : r'.stage = .over report := by
  cases moved with
  | same => exact stage
  | touched => rw [Run.touch_of_over stage, stage]
  | heard => rw [Run.hear_of_over stage, stage]

/-- What happens in a scene can be cut in two. -/
theorem after_append (before rest : List Happening) :
    s.after group (before ++ rest) = (s.after group before).after group rest :=
  List.foldl_append ..

section Superseded

variable {known : List Id} {l : Loop}

/-- A run whose cycle was replaced leaves the organization alone from then on. -/
theorem leaves_alone (sound : s.Sound group known)
    (gone : s.organization.currentCycle? group l.cycle = none) {future : List Happening}
    (unused : l.cycle ∉ future.flatMap (·.brought)) (there : s.runs[place]? = some r)
    (stage : r.stage = .looping l) :
    let later := s.after group future
    later.organization.currentCycle? group l.cycle = none ∧
      ∃ r', later.runs[place]? = some r' ∧
        ∀ fresh now, (r'.touch later.organization fresh now).organization = later.organization := by
  have own := (sound.runs r (List.mem_of_getElem? there)).loop l stage
  obtain ⟨gone', r', there', bound⟩ := after_keeps (P := Bound group l.cycle)
    (fun _ bound moved => bound.moved moved) sound gone unused there (.looping stage own rfl)
  exact ⟨gone', r', there', fun fresh now => bound.touch gone' fresh now⟩

/-- A run that does not find its cycle when it is about to turn an iteration over has reported so
when it has looked at the organization once more. -/
theorem reports_superseded (sound : s.Sound group known)
    (gone : s.organization.currentCycle? group l.cycle = none) {fresh fresh' : Id}
    {now now' : Timestamp} {before rest : List Happening}
    (unused : l.cycle ∉
      (.touch place fresh now :: (before ++ .touch place fresh' now' :: rest)).flatMap (·.brought))
    (there : s.runs[place]? = some r) (stage : r.stage = .looping l)
    (turnsOver : l.turnsOver = true) :
    ∃ r', (s.after group (.touch place fresh now ::
        (before ++ .touch place fresh' now' :: rest))).runs[place]? = some r' ∧
      r'.report? = some (.ok (.reflected l.supersededReport)) := by
  obtain rfl := (sound.runs r (List.mem_of_getElem? there)).loop l stage
  rw [List.flatMap_cons, List.mem_append, List.flatMap_append, List.mem_append, List.flatMap_cons,
    List.mem_append] at unused
  push Not at unused
  obtain ⟨unused₁, unused₂, unused₃, unused₄⟩ := unused
  -- it does not find its cycle
  have sound₁ := sound.perform (.touch place fresh now)
  have gone₁ := perform_gone sound gone unused₁
  have leaving : Leaving l (r.touch s.organization fresh now).run := by
    simp only [Run.touch, stage, Loop.touch_of_superseded turnsOver gone]
    exact .reporting rfl
  -- it is about to report so, whatever happens
  obtain ⟨gone₂, r₂, there₂, leaving⟩ := after_keeps (P := Leaving l)
    (fun gone leaving moved => leaving.moved gone moved) sound₁ gone₁ unused₂
    (perform_touch_run there fresh now) leaving
  -- it reports, and that is the end of it
  have sound₂ := sound₁.after before
  have reported := leaving.touched gone₂ fresh' now'
  obtain ⟨-, r₃, there₃, reported⟩ := after_keeps
    (P := fun r => r.stage = .over (.ok (.reflected l.supersededReport)))
    (fun _ reported moved => moved.over reported) (sound₂.perform (.touch place fresh' now'))
    (perform_gone sound₂ gone₂ unused₃) unused₄ (perform_touch_run there₂ fresh' now') reported
  refine ⟨r₃, ?_, by rw [Run.report?, reported]⟩
  show ((s.perform l.group (.touch place fresh now)).after l.group
    (before ++ .touch place fresh' now' :: rest)).runs[place]? = some r₃
  rw [after_append]
  exact there₃

end Superseded

end Scene

/-- Loops of replaced cycles, in everything that may happen to the cycle of a group.

Whatever has happened (`past`), a run that works on a cycle changes nothing but the cycle of its
group, and that only while it has the identifier that the run holds.  Once the group has another
cycle, or none, the run does not change anything in anything that may happen then (`future`).  If it
is about to begin, to conclude or to give back an iteration when it next looks at the organization,
it reports that its cycle was superseded when it has looked once more, whatever happens besides. -/
theorem superseded_loops (o : Organization) (group : Id) (once : (o.groups.map (·.id)).Nodup)
    (past future : List Happening)
    (distinct : (((o.cycle? group).map (·.id)).toList ++
      (past ++ future).flatMap (·.brought)).Nodup) :
    let scene := (Scene.mk o []).after group past
    let later := scene.after group future
    ∀ place r l, scene.runs[place]? = some r → r.stage = .looping l →
      (∀ fresh now, (r.touch scene.organization fresh now).organization = scene.organization ∨
        ∃ c c', scene.organization.cycle? group = some c ∧ c.id = l.cycle ∧ c'.id = l.cycle ∧
          (r.touch scene.organization fresh now).organization =
            scene.organization.putCycle group c') ∧
      (scene.organization.currentCycle? group l.cycle = none →
        later.organization.currentCycle? group l.cycle = none ∧
        ∃ r', later.runs[place]? = some r' ∧
          (∀ fresh now,
            (r'.touch later.organization fresh now).organization = later.organization) ∧
          (l.turnsOver = true → ∀ fresh now rest, future = .touch place fresh now :: rest →
            (∃ fresh now, .touch place fresh now ∈ rest) →
              r'.report? = some (.ok (.reflected l.supersededReport)))) := by
  intro scene later place r l there stage
  have start : (Scene.mk o []).Sound group ((o.cycle? group).map (·.id)).toList :=
    ⟨once, fun _ mem => mem, fun r mem => absurd mem List.not_mem_nil,
      fun r mem => absurd mem List.not_mem_nil⟩
  have sound := start.after past
  have own := (sound.runs r (List.mem_of_getElem? there)).loop l stage
  refine ⟨fun fresh now => ?_, fun gone => ?_⟩
  · have touched := l.touch_organization scene.organization now
    rw [own] at touched
    simp only [Run.touch, stage]
    exact touched
  · -- the run has its cycle from the past, so nothing in the future brings that back
    have unused : l.cycle ∉ future.flatMap (·.brought) := by
      rw [List.flatMap_append, ← List.append_assoc] at distinct
      exact List.disjoint_of_nodup_append distinct
        (sound.loops r (List.mem_of_getElem? there) l stage)
    obtain ⟨gone', r', there', alone⟩ := Scene.leaves_alone sound gone unused there stage
    refine ⟨gone', r', there', alone, ?_⟩
    rintro turnsOver fresh now rest rfl ⟨fresh', now', again⟩
    obtain ⟨before, rest, rfl⟩ := List.append_of_mem again
    obtain ⟨r'', there'', reported⟩ :=
      Scene.reports_superseded sound gone unused there stage turnsOver
    cases there'.symm.trans there''
    exact reported

/-! ## A cycle replaced while its loop works -/

namespace Replacement

def now : Timestamp := ⟨0, 0⟩

def team : Id := ⟨7⟩

def settings : ReflectionSettings := ⟨5, 2, .zero, .zero, .zero⟩

/-- A team of one, which leads itself. -/
def organization : Organization :=
  ((Organization.empty.createGroup team "team" .orchestratorReflect false now).addMember
    team "lead" .orchestrator).2

/-- The cycle that comes into the place of the one that is worked on. -/
def other : Cycle := Cycle.ofSettings ⟨3⟩ "other" settings now

/-- A run starts a cycle and has a round worked on.  The lead goes away, so the iteration is to be
given back; then the cycle is replaced. -/
def past : List Happening :=
  [.join "go" settings, .touch 0 ⟨10⟩ now, .touch 0 ⟨11⟩ now, .touch 0 ⟨12⟩ now, .touch 0 ⟨13⟩ now,
    .touch 0 ⟨14⟩ now, .hear 0 (.response 0 (.error .hubClosed)), .replace (some other)]

/-- The run looks at the organization twice more, while the other cycle is paused and resumed. -/
def future : List Happening :=
  [.touch 0 ⟨20⟩ now, .pause, .resume, .touch 0 ⟨21⟩ now]

end Replacement

open Replacement in
/-- The loop of the replaced cycle reports that this was superseded, and the other cycle is as it
was. -/
theorem replaced_while_working :
    let later := ((Scene.mk organization []).after team past).after team future
    (organization.groups.map (·.id)).Nodup ∧
      (((organization.cycle? team).map (·.id)).toList ++
        (past ++ future).flatMap (·.brought)).Nodup ∧
      later.organization.cycle? team = some other ∧
      ∃ r', later.runs[0]? = some r' ∧
        r'.report? = some (.ok (.reflected
          ⟨⟨12⟩, .superseded, 0, Loop.replacedSummary, none⟩)) := by
  have once : (organization.groups.map (·.id)).Nodup := by decide
  have distinct : (((organization.cycle? team).map (·.id)).toList ++
      (past ++ future).flatMap (·.brought)).Nodup := by decide
  have there : ((Scene.mk organization []).after team past).runs[0]? =
      some ⟨team, "go", settings, .looping ⟨team, ⟨12⟩, .zero, none, .retrying⟩⟩ := rfl
  obtain ⟨-, replaced⟩ :=
    superseded_loops organization team once past future distinct 0 _ _ there rfl
  obtain ⟨-, r', there', -, reports⟩ := replaced rfl
  exact ⟨once, distinct, rfl, r', there', reports rfl _ _ _ rfl ⟨⟨21⟩, now, by simp⟩⟩

end Ensemble.Coordination
