import Ensemble.Proofs.Coordination.Supersession
import Ensemble.Proofs.Reflection.Underway
import Mathlib.Algebra.GroupWithZero.Nat

/-!
# Adjustments on their way to the agent

What went wrong in an iteration is to be told with the next prompt.  The step that begins an
iteration takes the adjustments off the cycle, and tells them in its prompt unless the iteration is
the first.  So advice is lost only if it comes before the first iteration is begun once more, and
that is the advice to try again after a first iteration that failed (`adjustments_sent`).

The argument counts the runs that have an iteration under way (`Scene.underway`).  Every run begins
an iteration before it concludes it or gives it back (`Loop.touch_accounts`), so that the cycle of
the group accounts for the iterations of all of them, whatever happens (`Scene.perform_accounted`).
-/

namespace Ensemble.Coordination

open Organization (CycleStep)
open Reflection (Cycle)

/-! ## One loop -/

namespace Loop

variable {l : Loop} {o : Organization}

/-- Whether a loop has an iteration under way. -/
def isUnderway (l : Loop) : Bool :=
  match l.stage with
  | .gathering .. | .working .. | .concluding _ | .framing .. | .judging .. | .consulting ..
  | .scoring .. | .retrying => true
  | _ => false

/-- How many iterations of a cycle a loop has under way. -/
def share (cycle : Id) (l : Loop) : Nat :=
  if l.cycle = cycle then l.isUnderway.toNat else 0

/-- A loop on another cycle has no share in this one. -/
theorem share_of_ne {cycle : Id} (other : l.cycle ≠ cycle) : l.share cycle = 0 :=
  if_neg other

/-- A loop has a share in its cycle while it has an iteration underway. -/
theorem share_eq {cycle : Id} (same : l.cycle = cycle) : l.share cycle = l.isUnderway.toNat :=
  if_pos same

/-- A loop that has reported is over. -/
theorem isUnderway_of_report? {report : LoopReport} (reported : l.report? = some report) :
    l.isUnderway = false := by
  unfold report? at reported
  split at reported
  next stage => rw [isUnderway, stage]
  next => cases reported

/-- After its round the iteration is still under way. -/
theorem followRound_isUnderway (l : Loop) (evaluator : Option String) (progress : RoundProgress) :
    (l.followRound evaluator progress).1.isUnderway = true := by
  match progress, evaluator with
  | .going _ _, _ => rfl
  | .over (.ok _), none => rfl
  | .over (.ok _), some _ => rfl
  | .over (.error _), _ => rfl

/-- With a decision the iteration has ended. -/
theorem decided_isUnderway (l : Loop) (decision : Option Reflection.Decision) :
    (l.decided decision).isUnderway = false := by
  unfold decided
  split
  · rfl
  · split <;> rfl

/-- A loop that has concluded has no iteration underway. -/
theorem concluded_isUnderway (l : Loop) (response : String)
    (decision : Option Reflection.Decision) :
    (l.concluded response decision).isUnderway = false := by
  cases decision with
  | none => exact decided_isUnderway l none
  | some decision => exact decided_isUnderway _ (some decision)

/-- No iteration is begun or ended by an answer. -/
theorem hear_isUnderway (l : Loop) (heard : Heard) :
    (l.hear heard).1.isUnderway = l.isUnderway := by
  unfold hear
  split
  next stage => rw [followRound_isUnderway, isUnderway, stage]
  next stage => simp only [isUnderway, moveTo, stage]
  next stage => simp only [isUnderway, failed, moveTo, stage]
  next stage => simp only [isUnderway, moveTo, stage]
  next stage => simp only [isUnderway, failed, moveTo, stage]
  next stage => simp only [isUnderway, moveTo, stage]
  next => rfl

/-- Taking in an answer does not change the share of a loop. -/
theorem hear_share (cycle : Id) (l : Loop) (heard : Heard) :
    (l.hear heard).1.share cycle = l.share cycle := by
  rw [share, share, (l.hear_keeps heard).cycle, hear_isUnderway]

section Beginning

variable {c : Cycle}

/-- A cycle that is ready gives an iteration, whose prompt is made from it. -/
theorem touch_of_ready (stage : l.stage = .beginning)
    (current : o.currentCycle? l.group l.cycle = some c) (active : c.isActive = true)
    (unpaused : c.isPaused = false) (now : Timestamp) :
    l.touch o now = ⟨l.moveTo (.gathering c.iterationPrompt c.evaluator), [],
      o.putCycle l.group c.takeIteration.2⟩ := by
  simp only [touch, stage, Organization.updateCycle, current,
    Cycle.takeIteration_of_active active unpaused]

/-- A cycle that is not ready is left as it is. -/
theorem touch_of_unready (stage : l.stage = .beginning)
    (current : o.currentCycle? l.group l.cycle = some c)
    (unready : c.isActive = false ∨ c.isPaused = true) (now : Timestamp) :
    ∃ outcome, l.touch o now =
      ⟨l.moveTo (.reporting outcome false), [], o.putCycle l.group c⟩ := by
  obtain ⟨outcome, given⟩ := Cycle.takeIteration_of_unready unready
  exact ⟨outcome, by simp only [touch, stage, Organization.updateCycle, current, given]⟩

end Beginning

/-- A loop that finds its cycle when it looks at the organization: the cycle goes on to account for
the iteration of the loop, if it has one under way, and for any others. -/
theorem touch_of_current {c : Cycle} (current : o.currentCycle? l.group l.cycle = some c)
    (now : Timestamp) :
    ∃ c', (l.touch o now).organization.cycle? l.group = some c' ∧ c'.id = c.id ∧
      (c.currentIteration < maxWord32 → ∀ n, c.Accounts (n + l.isUnderway.toNat) →
        c'.Accounts (n + (l.touch o now).loop.isUnderway.toNat)) := by
  have found := (Organization.currentCycle?_eq_some_iff.1 current).1
  have put := Organization.cycle?_putCycle found
  cases stage : l.stage with
  | beginning =>
    have aside : l.isUnderway = false := by rw [isUnderway, stage]
    rw [aside]
    -- a cycle that is over or paused is left alone
    by_cases ready : c.isActive = true ∧ c.isPaused = false
    · rw [touch_of_ready stage current ready.1 ready.2]
      exact ⟨_, put _, c.takeIteration_id, fun room n accounts =>
        accounts.takeIteration ready.1 ready.2 room⟩
    · rw [Decidable.not_and_iff_not_or_not, Bool.not_eq_true, Bool.not_eq_false] at ready
      obtain ⟨outcome, unready⟩ := touch_of_unready stage current ready now
      rw [unready]
      exact ⟨_, put c, rfl, fun _ n accounts => accounts⟩
  | gathering prompt evaluator =>
    have underway : l.isUnderway = true := by rw [isUnderway, stage]
    -- the round that begins is part of the iteration
    have still : (l.touch o now).loop.isUnderway = true := by
      simp only [touch, stage]
      cases o.gather l.group with
      | error => rfl
      | ok => exact l.followRound_isUnderway evaluator _
    rw [underway, still]
    refine ⟨c, ?_, rfl, fun _ n accounts => accounts⟩
    simpa only [touch, stage] using found
  | concluding response =>
    have underway : l.isUnderway = true := by rw [isUnderway, stage]
    simp only [touch, stage, Organization.updateCycle, current, concluded_isUnderway, underway]
    exact ⟨_, put _, c.conclude_id now response, fun _ n accounts => accounts.conclude response now⟩
  | framing response evaluator =>
    have underway : l.isUnderway = true := by rw [isUnderway, stage]
    simp only [touch, stage, Organization.updateCycle, current, underway]
    exact ⟨c, put c, rfl, fun _ n accounts => accounts⟩
  | scoring response evaluation model =>
    have underway : l.isUnderway = true := by rw [isUnderway, stage]
    simp only [touch, stage, Organization.updateCycle, current, concluded_isUnderway, underway]
    exact ⟨_, put _, c.concludeWith_id now response evaluation (some model),
      fun _ n accounts => accounts.concludeWith response evaluation (some model) now⟩
  | retrying =>
    have underway : l.isUnderway = true := by rw [isUnderway, stage]
    simp only [touch, stage, Organization.updateCycle, current, decided_isUnderway, underway]
    exact ⟨_, put _, c.retry_id now, fun _ n accounts => accounts.retry now⟩
  | reporting outcome posts =>
    have aside : l.isUnderway = false := by rw [isUnderway, stage]
    have still : (l.touch o now).loop.isUnderway = false := by
      simp only [touch, stage]
      cases posts <;> rfl
    rw [aside, still]
    refine ⟨c, ?_, rfl, fun _ n accounts => accounts⟩
    simpa only [touch, stage] using found
  | addressing report =>
    have aside : l.isUnderway = false := by rw [isUnderway, stage]
    have still : (l.touch o now).loop.isUnderway = false := by
      simp only [touch, stage]
      split <;> rfl
    rw [aside, still]
    refine ⟨c, ?_, rfl, fun _ n accounts => accounts⟩
    simp only [touch, stage]
    split <;> exact found
  | _ =>
    simp only [touch, stage]
    exact ⟨c, found, rfl, fun _ n accounts => accounts⟩

/-- A loop that looks at the organization begins an iteration before it ends one: the cycle of its
group goes on to account for the iterations of the loop and of all others. -/
theorem touch_accounts (l : Loop) (o : Organization) (now : Timestamp) {c' : Cycle}
    (found' : (l.touch o now).organization.cycle? l.group = some c') :
    ∃ c, o.cycle? l.group = some c ∧ c'.id = c.id ∧
      (c.currentIteration < maxWord32 → ∀ n, c.Accounts (n + l.share c.id) →
        c'.Accounts (n + (l.touch o now).loop.share c.id)) := by
  have keeps := l.touch_keeps o now
  cases current : o.currentCycle? l.group l.cycle with
  | none =>
    have same : (l.touch o now).organization = o := by
      refine (l.touch_organization o now).resolve_right ?_
      rintro ⟨c, -, found, named, -⟩
      rw [Organization.currentCycle?_eq_none_iff, found] at current
      exact current (congrArg some named)
    rw [same] at found'
    -- a loop has no share in a cycle that is not its own
    have other : l.cycle ≠ c'.id := by
      rintro named
      rw [Organization.currentCycle?_eq_none_iff, found'] at current
      exact current (congrArg some named.symm)
    refine ⟨c', found', rfl, fun _ n accounts => ?_⟩
    rw [share_of_ne (by rwa [keeps.cycle])]
    rwa [share_of_ne other] at accounts
  | some c =>
    obtain ⟨found, named⟩ := Organization.currentCycle?_eq_some_iff.1 current
    obtain ⟨c'', left, same, accounts⟩ := touch_of_current current now
    obtain rfl : c'' = c' := Option.some.inj (left.symm.trans found')
    refine ⟨c, found, same, ?_⟩
    rw [share_eq named.symm, share_eq (keeps.cycle.trans named.symm)]
    exact accounts

end Loop

/-! ## One run -/

/-- A cycle that is started accounts for no iteration. -/
theorem startCycle_accounts {o : Organization} {settings : ReflectionSettings} {group fresh : Id}
    {goal : String} {evaluator : Option String} {now : Timestamp} {c : Cycle}
    (found : (o.startCycle settings group goal evaluator fresh now).2.cycle? group = some c) :
    c.id = fresh ∧ c.Accounts 0 := by
  obtain ⟨_, -, started⟩ :=
    Option.bind_eq_some_iff.1 ((Organization.cycle?_setReflection _).symm.trans found)
  cases started
  exact ⟨rfl, fun _ => Nat.le_refl 0, fun _ _ mem => absurd mem List.not_mem_nil⟩

namespace Run

variable {r : Run} {o : Organization} {group : Id}

/-- How many iterations of a cycle a run has under way. -/
def share (cycle : Id) (r : Run) : Nat :=
  match r.loop? with
  | some l => l.share cycle
  | none => 0

/-- A run with a loop is at the stage of looping. -/
theorem stage_of_loop? {l : Loop} (looping : r.loop? = some l) : r.stage = .looping l := by
  unfold loop? at looping
  split at looping
  next stage =>
    cases looping
    exact stage
  next => cases looping

/-- A run that loops has the share of its loop. -/
theorem share_of_looping {l : Loop} (stage : r.stage = .looping l) (cycle : Id) :
    r.share cycle = l.share cycle := by
  simp only [share, loop?, stage]

/-- A run without a loop has no share in any cycle. -/
theorem share_of_idle (idle : r.loop? = none) (cycle : Id) : r.share cycle = 0 := by
  rw [share, idle]

/-- A run has the share of its loop, also once that is over. -/
theorem followLoop_share (r : Run) (l : Loop) (cycle : Id) :
    (r.followLoop l).share cycle = l.share cycle := by
  unfold followLoop
  cases reported : l.report? with
  | some report =>
    rw [Loop.share, Loop.isUnderway_of_report? reported]
    exact (ite_self 0).symm
  | none => exact share_of_looping rfl cycle

/-- An answer changes nothing about what is under way. -/
theorem hear_share (r : Run) (heard : Heard) (cycle : Id) :
    (r.hear heard).1.share cycle = r.share cycle := by
  cases looping : r.loop? with
  | some l =>
    have stage := stage_of_loop? looping
    rw [share_of_looping stage, ← l.hear_share cycle heard, ← followLoop_share r]
    simp only [hear, stage]
  | none =>
    have own : r.Of r.group :=
      ⟨rfl, fun l stage => by rw [loop?, stage] at looping; cases looping⟩
    have follows := hear_follows own heard
    rw [share_of_idle looping]
    refine share_of_idle ?_ cycle
    cases looping' : (r.hear heard).1.loop? with
    | none => rfl
    | some l' =>
      obtain ⟨l, stage, -⟩ := (follows.loop l' (stage_of_loop? looping')).resolve_right
        (fun replacing => by cases replacing)
      rw [loop?, stage] at looping
      cases looping

/-- A run that is to start a cycle starts it, and has no iteration under way. -/
theorem touch_of_replacing (stage : r.stage = .replacing) (o : Organization) (fresh : Id)
    (now : Timestamp) :
    (r.touch o fresh now).organization =
        (o.startCycle r.settings r.group r.request none fresh now).2 ∧
      ∀ cycle, (r.touch o fresh now).run.share cycle = 0 := by
  simp only [touch, stage]
  split
  next eq =>
    rw [eq]
    exact ⟨rfl, share_of_idle rfl⟩
  next eq =>
    rw [eq]
    exact ⟨rfl, fun cycle => ite_self 0⟩

/-- Any other run that works on no cycle leaves the organization alone. -/
theorem touch_of_idle (idle : r.loop? = none) (stage : r.stage ≠ .replacing) (o : Organization)
    (fresh : Id) (now : Timestamp) :
    (r.touch o fresh now).organization = o ∧
      ∀ cycle, (r.touch o fresh now).run.share cycle = 0 := by
  cases stage' : r.stage with
  | looping l =>
    rw [loop?, stage'] at idle
    cases idle
  | replacing => exact absurd stage' stage
  | opening =>
    simp only [touch, stage']
    cases o.gather r.group with
    | error failure => exact ⟨rfl, share_of_idle rfl⟩
    | ok found => exact ⟨rfl, share_of_idle (Aside.enter r _ _).idle⟩
  -- a loop that is joined has begun no iteration yet
  | joining =>
    simp only [touch, stage']
    split
    next => exact ⟨rfl, fun cycle => ite_self 0⟩
    next => exact ⟨rfl, share_of_idle rfl⟩
  | _ =>
    simp only [touch, stage']
    exact ⟨trivial, share_of_idle idle⟩

/-- A run that looks at the organization, like its loop, leaves the cycle of its group to account
for its share, unless it has started that cycle. -/
theorem touch_accounts (own : r.Of group) (o : Organization) (fresh : Id) (now : Timestamp)
    {c' : Cycle} (found' : (r.touch o fresh now).organization.cycle? group = some c') :
    (∃ c, o.cycle? group = some c ∧ c'.id = c.id ∧
      (c.currentIteration < maxWord32 → ∀ n, c.Accounts (n + r.share c.id) →
        c'.Accounts (n + (r.touch o fresh now).run.share c.id))) ∨
    (c'.id = fresh ∧ c'.Accounts 0 ∧ (r.touch o fresh now).run.share fresh = 0) := by
  cases looping : r.loop? with
  | some l =>
    have stage := stage_of_loop? looping
    obtain rfl := own.loop l stage
    left
    simp only [touch, stage, followLoop_share, share_of_looping stage] at found' ⊢
    exact l.touch_accounts o now found'
  | none =>
    by_cases stage : r.stage = .replacing
    · obtain rfl := own.own
      obtain ⟨started, after⟩ := touch_of_replacing stage o fresh now
      rw [started] at found'
      obtain ⟨named, accounts⟩ := startCycle_accounts found'
      exact .inr ⟨named, accounts, after fresh⟩
    · obtain ⟨same, after⟩ := touch_of_idle looping stage o fresh now
      rw [same] at found'
      refine .inl ⟨c', found', rfl, fun _ n accounts => ?_⟩
      rwa [after, ← share_of_idle looping]

end Run

/-! ## Scenes -/

namespace Scene

variable {group : Id} {s : Scene} {known : List Id}

/-- How many iterations of a cycle are under way. -/
def underway (cycle : Id) (s : Scene) : Nat :=
  (s.runs.map (Run.share cycle)).sum

/-- The cycle of the group accounts for the iterations under way. -/
def Accounted (group : Id) (s : Scene) : Prop :=
  ∀ c, s.organization.cycle? group = some c → c.Accounts (s.underway c.id)

/-- The cycle of the group has not come to the greatest number that counts its iterations. -/
def HasRoom (group : Id) (s : Scene) : Prop :=
  ∀ c, s.organization.cycle? group = some c → c.currentIteration < maxWord32

/-- Nobody works on a cycle that has not come up. -/
theorem underway_of_unknown (sound : s.Sound group known) {cycle : Id} (unknown : cycle ∉ known) :
    s.underway cycle = 0 := by
  refine List.sum_eq_zero_iff_forall_eq_nat.2 fun n mem => ?_
  obtain ⟨r, there, rfl⟩ := List.mem_map.1 mem
  cases looping : r.loop? with
  | none => exact Run.share_of_idle looping cycle
  | some l =>
    have stage := Run.stage_of_loop? looping
    rw [Run.share_of_looping stage]
    refine Loop.share_of_ne fun same => unknown ?_
    exact same ▸ sound.loops r there l stage

/-- When one run changes, what the others have under way stays the same. -/
theorem exists_underway {place : Nat} {r : Run} (there : s.runs[place]? = some r) (r' : Run)
    (o : Organization) (cycle : Id) :
    ∃ others, s.underway cycle = others + r.share cycle ∧
      (Scene.mk o (s.runs.set place r')).underway cycle = others + r'.share cycle := by
  obtain ⟨inside, rfl⟩ := List.getElem?_eq_some_iff.1 there
  obtain ⟨before, after, whole, -, changed⟩ :
      ∃ before after, s.runs = before ++ s.runs[place] :: after ∧ before.length = place ∧
        s.runs.set place r' = before ++ r' :: after := List.exists_of_set inside
  -- the other runs are those before and after the place
  refine ⟨(before.map (Run.share cycle)).sum + (after.map (Run.share cycle)).sum, ?_, ?_⟩
  · rw [underway, congrArg (List.map (Run.share cycle)) whole]
    simp
    omega
  · rw [underway, changed]
    simp
    omega

/-- A run that looks at the organization takes on what it begins and gives up what it ends. -/
theorem touch_accounted (sound : s.Sound group known) (accounted : s.Accounted group)
    (room : s.HasRoom group) {fresh : Id} (unknown : fresh ∉ known) (place : Nat)
    (now : Timestamp) :
    (s.perform group (.touch place fresh now)).Accounted group := by
  cases there : s.runs[place]? with
  | none =>
    rw [(perform_of_none there).1]
    exact accounted
  | some r =>
    rw [perform_touch there]
    intro c' found'
    have own := sound.runs r (List.mem_of_getElem? there)
    have underway := exists_underway there (r.touch s.organization fresh now).run
      (r.touch s.organization fresh now).organization
    -- the cycle is the one that was there, or it was started in this moment
    rcases Run.touch_accounts own s.organization fresh now found' with
      ⟨c, found, named, accounts⟩ | ⟨rfl, accounts, after⟩
    · obtain ⟨others, before, later⟩ := underway c.id
      rw [named, later]
      exact accounts (room c found) others (before ▸ accounted c found)
    · obtain ⟨others, before, later⟩ := underway c'.id
      rw [underway_of_unknown sound unknown] at before
      obtain rfl : others = 0 := by omega
      rwa [later, after]

/-- A run that takes in an answer has under way what it had. -/
theorem hear_accounted (accounted : s.Accounted group) (place : Nat) (heard : Heard) :
    (s.perform group (.hear place heard)).Accounted group := by
  cases there : s.runs[place]? with
  | none =>
    rw [(perform_of_none there).2]
    exact accounted
  | some r =>
    rw [perform_hear there]
    intro c found
    obtain ⟨others, before, later⟩ :=
      exists_underway there (r.hear heard).1 s.organization c.id
    rw [Run.hear_share, ← before] at later
    exact later ▸ accounted c found

/-- Whoever steers the cycle leaves what is under way alone. -/
theorem steer_accounted (accounted : s.Accounted group) {f : Cycle → Cycle}
    (same : ∀ c, (f c).id = c.id) (keeps : ∀ c n, c.Accounts n → (f c).Accounts n) :
    Accounted group { s with organization := (s.organization.steerCycle group f).2 } := by
  intro c' found'
  rw [Organization.cycle?_steerCycle] at found'
  obtain ⟨c, found, rfl⟩ := Option.map_eq_some_iff.1 found'
  rw [same]
  exact keeps c _ (accounted c found)

/-- Whatever happens, the cycle of the group accounts for the iterations under way, if a cycle that
is brought in accounts for none. -/
theorem perform_accounted (sound : s.Sound group known) (accounted : s.Accounted group)
    (room : s.HasRoom group) {h : Happening} (unknown : ∀ cycle ∈ h.brought, cycle ∉ known)
    (orderly : ∀ c, h = .replace (some c) → c.Accounts 0) :
    (s.perform group h).Accounted group := by
  cases h with
  | join request settings =>
    intro c found
    have idle : (Run.start group request settings).share c.id = 0 := Run.share_of_idle rfl c.id
    have same : (s.perform group (.join request settings)).underway c.id = s.underway c.id := by
      simp [underway, perform, idle]
    exact same ▸ accounted c found
  | touch place fresh now =>
    exact touch_accounted sound accounted room (unknown fresh List.mem_cons_self) place now
  | hear place heard => exact hear_accounted accounted place heard
  | start settings goal evaluator fresh now =>
    intro c found
    obtain ⟨rfl, accounts⟩ := startCycle_accounts found
    exact (underway_of_unknown sound (unknown _ List.mem_cons_self)).symm ▸ accounts
  -- no run can know the cycle that is put there, as its identifier is new
  | replace cycle =>
    intro c found
    have assigned := (Organization.cycle?_setReflection cycle).symm.trans found
    obtain ⟨_, -, rfl⟩ := Option.bind_eq_some_iff.1 assigned
    exact (underway_of_unknown sound (unknown _ List.mem_cons_self)).symm ▸ orderly c rfl
  | pause => exact steer_accounted accounted Cycle.pause_id fun c n accounts => accounts.pause
  | resume =>
    exact steer_accounted accounted (fun _ => rfl)
      fun c n accounts => ⟨accounts.begun, accounts.advice⟩
  | stop now =>
    exact steer_accounted accounted (fun c => c.stop_id now) fun c n accounts => accounts.stop now
  | delete =>
    intro c found
    have gone : (s.perform group .delete).organization.cycle? group = none := by
      rw [Organization.cycle?, perform, Organization.group?_deleteGroup sound.once,
        Option.bind_none]
    rw [gone] at found
    cases found

/-- After whatever has happened, the cycle of the group accounts for the iterations under way. -/
theorem after_accounted (sound : s.Sound group known) (accounted : s.Accounted group)
    {happenings : List Happening} (room : ∀ k, (s.after group (happenings.take k)).HasRoom group)
    (distinct : (known ++ happenings.flatMap (·.brought)).Nodup)
    (orderly : ∀ c, .replace (some c) ∈ happenings → c.Accounts 0) :
    (s.after group happenings).Accounted group := by
  induction happenings generalizing s known with
  | nil => exact accounted
  | cons h rest ih =>
    rw [List.flatMap_cons, ← List.append_assoc] at distinct
    have apart := List.disjoint_of_nodup_append (List.nodup_append.1 distinct).1
    refine ih (sound.perform h) ?_ (fun k => room (k + 1)) distinct
      fun c mem => orderly c (List.mem_cons_of_mem h mem)
    exact perform_accounted sound accounted (room 0) (fun cycle mem known => apart known mem)
      fun c eq => orderly c (eq ▸ List.mem_cons_self)

end Scene

/-- Adjustments, in everything that may happen to the cycle of a group.

Whatever has happened, a run that is to begin an iteration of a cycle that is active and not paused
begins it with a prompt that is made from the cycle, and takes the adjustments off.  If the
iteration is not the first, the prompt tells each of them.  If it is the first, the prompt tells
none.  Those that are then lost are advice to try again, and no response has been taken in yet, as
long as the count of iterations has not gone past its greatest number and back to zero.  A run that
finds its cycle over or paused leaves the adjustments where they are. -/
theorem adjustments_sent (o : Organization) (group : Id) (once : (o.groups.map (·.id)).Nodup)
    (happenings : List Happening)
    (distinct : (((o.cycle? group).map (·.id)).toList ++
      happenings.flatMap (·.brought)).Nodup)
    (orderly : ∀ c, o.cycle? group = some c ∨ .replace (some c) ∈ happenings → c.Accounts 0) :
    let scene := (Scene.mk o []).after group happenings
    ∀ (place : Nat) (r : Run) (l : Loop) (c : Cycle) (fresh : Id) (now : Timestamp),
      scene.runs[place]? = some r → r.stage = .looping l → l.stage = .beginning →
      scene.organization.currentCycle? group l.cycle = some c →
      let touched := r.touch scene.organization fresh now
      (c.isActive = true ∧ c.isPaused = false →
        touched.run = r.moveTo (.looping (l.moveTo (.gathering c.iterationPrompt c.evaluator))) ∧
        touched.organization.cycle? group =
          some { c with adjustments := [], currentIteration := c.nextIteration } ∧
        (0 < c.currentIteration →
          ∀ a ∈ c.adjustments, ("\n- " ++ a).toList <:+: c.iterationPrompt.toList) ∧
        (c.currentIteration = 0 →
          (∀ adjustments, { c with adjustments }.iterationPrompt = c.iterationPrompt) ∧
          ((∀ k, ((Scene.mk o []).after group (happenings.take k)).HasRoom group) →
            c.lastResponse = none ∧ ∀ a ∈ c.adjustments, a = Cycle.retryAdjustment))) ∧
      (c.isActive = false ∨ c.isPaused = true → touched.organization.cycle? group = some c) := by
  intro scene place r l c fresh now there stage beginning current touched
  have start : (Scene.mk o []).Sound group ((o.cycle? group).map (·.id)).toList :=
    ⟨once, fun _ mem => mem, fun r mem => absurd mem List.not_mem_nil,
      fun r mem => absurd mem List.not_mem_nil⟩
  obtain rfl := ((start.after happenings).runs r (List.mem_of_getElem? there)).loop l stage
  have found := (Organization.currentCycle?_eq_some_iff.1 current).1
  have put := Organization.cycle?_putCycle found
  constructor
  · rintro ⟨active, unpaused⟩
    have taken := Loop.touch_of_ready beginning current active unpaused now
    have goes : touched.run =
        r.moveTo (.looping (l.moveTo (.gathering c.iterationPrompt c.evaluator))) := by
      simp only [touched, Run.touch, stage, taken]
      rfl
    have left : touched.organization.cycle? l.group =
        some { c with adjustments := [], currentIteration := c.nextIteration } := by
      simp only [touched, Run.touch, stage, taken]
      rw [put, Cycle.takeIteration_of_active active unpaused]
    refine ⟨goes, left, Cycle.tells_adjustments, fun first =>
      ⟨Cycle.iterationPrompt_adjustments first, fun room => ?_⟩⟩
    -- with room in the count, the first iteration is counted as such only before any response
    have accounted : scene.Accounted l.group :=
      Scene.after_accounted start (fun c found => orderly c (.inl found)) room distinct
        fun c mem => orderly c (.inr mem)
    exact (accounted c found).first active first
  · intro unready
    obtain ⟨outcome, left⟩ := Loop.touch_of_unready beginning current unready now
    simp only [touched, Run.touch, stage, left]
    exact put c

/-! ## Iterations that fail -/

namespace Retry

open Replacement

/-- A run joins the cycle that the team is given, and has the first round worked on. -/
def started : List Happening :=
  [.replace (some other), .join "go" settings, .touch 0 ⟨10⟩ now, .touch 0 ⟨11⟩ now,
    .touch 0 ⟨12⟩ now, .touch 0 ⟨13⟩ now]

/-- The lead does not answer, and the iteration is given back. -/
def firstFails : List Happening :=
  started ++ [.hear 0 (.response 0 (.error .hubClosed)), .touch 0 ⟨14⟩ now]

/-- The lead answers at first, and the second iteration is given back. -/
def secondFails : List Happening :=
  started ++ [.hear 0 (.response 0 (.ok "half")), .touch 0 ⟨14⟩ now, .touch 0 ⟨15⟩ now,
    .touch 0 ⟨16⟩ now, .hear 0 (.response 0 (.error .hubClosed)), .touch 0 ⟨17⟩ now]

end Retry

open Replacement Retry in
/-- The prompt with which the second iteration is begun once more tells the advice to try again. -/
theorem retry_told_in_second_iteration :
    let scene := (Scene.mk organization []).after team secondFails
    let later := scene.perform team (.touch 0 ⟨20⟩ now)
    (organization.groups.map (·.id)).Nodup ∧
      (((organization.cycle? team).map (·.id)).toList ++
        secondFails.flatMap (·.brought)).Nodup ∧
      (∀ c, organization.cycle? team = some c ∨ .replace (some c) ∈ secondFails → c.Accounts 0) ∧
      ∃ c, scene.organization.cycle? team = some c ∧
        c.adjustments = [Cycle.retryAdjustment] ∧
        ("\n- " ++ Cycle.retryAdjustment).toList <:+: c.iterationPrompt.toList ∧
        later.runs[0]? = some ⟨team, "go", settings,
          .looping ⟨team, ⟨3⟩, .zero, some "half", .gathering c.iterationPrompt none⟩⟩ := by
  intro scene later
  have once : (organization.groups.map (·.id)).Nodup := by decide
  have distinct : (((organization.cycle? team).map (·.id)).toList ++
      secondFails.flatMap (·.brought)).Nodup := by decide
  have orderly : ∀ c, organization.cycle? team = some c ∨ .replace (some c) ∈ secondFails →
      c.Accounts 0 := by
    rintro c (found | mem)
    · cases found
    · obtain rfl : c = other := by simpa [secondFails, started] using mem
      exact (Cycle.Built.ofSettings ⟨3⟩ "other" (by decide) (by decide) now).fresh.accounts rfl
  have there : scene.runs[0]? = some ⟨team, "go", settings,
      .looping ⟨team, ⟨3⟩, .zero, some "half", .beginning⟩⟩ := rfl
  obtain ⟨c, current, ready, adjustments, second, evaluator⟩ :
      ∃ c, scene.organization.currentCycle? team ⟨3⟩ = some c ∧
        (c.isActive = true ∧ c.isPaused = false) ∧ c.adjustments = [Cycle.retryAdjustment] ∧
        0 < c.currentIteration ∧ c.evaluator = none :=
    ⟨_, rfl, ⟨rfl, rfl⟩, rfl, Nat.one_pos, rfl⟩
  obtain ⟨taken, -⟩ := adjustments_sent organization team once secondFails distinct orderly
    0 _ _ c ⟨20⟩ now there rfl rfl current
  obtain ⟨goes, -, told, -⟩ := taken ready
  refine ⟨once, distinct, orderly, c, (Organization.currentCycle?_eq_some_iff.1 current).1,
    adjustments, told second _ (by simp [adjustments]), ?_⟩
  rw [Scene.perform_touch_run there, goes, evaluator]
  rfl

open Replacement Retry in
/-- The prompt with which the first iteration is begun once more does not tell that advice, and the
cycle does not hold it any more. -/
theorem retry_untold_in_first_iteration :
    let scene := (Scene.mk organization []).after team firstFails
    let later := scene.perform team (.touch 0 ⟨20⟩ now)
    ∃ c c', scene.organization.cycle? team = some c ∧
      c.adjustments = [Cycle.retryAdjustment] ∧
      later.runs[0]? = some ⟨team, "go", settings,
        .looping ⟨team, ⟨3⟩, .zero, none, .gathering c.iterationPrompt none⟩⟩ ∧
      ¬ Cycle.retryAdjustment.toList <:+: c.iterationPrompt.toList ∧
      later.organization.cycle? team = some c' ∧ c'.adjustments = [] := by
  refine ⟨_, _, rfl, rfl, rfl, ?_, rfl, rfl⟩
  decide +kernel

end Ensemble.Coordination
