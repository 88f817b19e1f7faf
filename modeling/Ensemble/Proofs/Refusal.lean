import Ensemble.Proofs.Organization.Reconciliation
import Ensemble.Proofs.Turn.Idle

/-!
# Operations that are refused

An operation of the engine, or on an organization, that is refused has changed nothing.  Some have
done something by the time they could fail: closing and aborting take out the waiter before they
look for the session, recovering posts a notice and then aborts, and an orchestrator joins its group
before it is promoted.

`Engine.refusal?` and `Organization.refusal?` say which operations are refused, and with what, by
looking at what is there and doing nothing.  What they let pass is not refused at any later step.
What they do not let pass comes to its refusal and nothing else (`refused_changes_nothing`).
-/

namespace Ensemble

/-! ## The engine -/

namespace Engine

/-- What an operation is refused with; none if it is not refused. -/
def refusal? (e : Engine) : Operation → Option Failure
  | .create s | .restore s _ => (e.session? s.name).map fun _ => .sessionExists s.name
  | .begin name _ options _ _ _ =>
    match e.session? name with
    | none => some (.sessionNotFound name)
    | some s =>
      if s.isProcessing && !options.allowOverlap then some (.alreadyProcessing name) else none
  | .apply .. | .complete .. | .takeNext _ => none
  | .close name | .nextGeneration name | .abort name _ | .enqueue name _ | .postNotice name _ _
  | .recover name _ _ | .setModel name _ =>
    if (e.session? name).isSome then none else some (.sessionNotFound name)

section Refused

variable {op : Operation} {failure : Failure}

/-- Where nobody waits without a session, a refused deed leaves the desk as it was. -/
theorem Deed.unchanged_of_refused {d d' : Desk} {signals : List Signal}
    (deed : Deed op d (.refused failure) d' signals) (owned : d.Owned) : d' = d ∧ signals = [] := by
  cases deed with
  | refused => exact ⟨rfl, rfl⟩
  | closedNothing =>
    have nobody := owned rfl
    subst nobody
    exact ⟨rfl, rfl⟩
  | abortedNothing =>
    have nobody := owned rfl
    subst nobody
    exact ⟨rfl, rfl⟩

/-- Where nobody waits without a session, a refused operation comes to its refusal only. -/
theorem perform_eq_of_refused {e : Engine} (owned : (e.desk op.target).Owned)
    (refused : (e.perform op).answer = .refused failure) :
    e.perform op = ⟨.refused failure, e, []⟩ := by
  have deed := perform_deed e op
  rw [refused] at deed
  obtain ⟨desk, signals⟩ := deed.unchanged_of_refused owned
  have engine : (e.perform op).engine = e := by
    refine ext_desk fun name => ?_
    by_cases here : name = op.target
    · rw [here, desk]
    · exact perform_desk_of_ne e op here
  rw [← refused, ← signals]
  exact congrArg (Step.mk _ · _) engine

/-- An attempt is refused exactly if it fails. -/
theorem refused_iff {α : Type} {wrap : α → Answer} (passes : ∀ value, wrap value ≠ .refused failure)
    (s : Step (Attempt α)) :
    (s.map (Answer.ofAttempt wrap)).answer = .refused failure ↔ s.answer = .error failure := by
  obtain ⟨answer, engine, signals⟩ := s
  cases answer with
  | error other => simp [Step.map, Answer.ofAttempt]
  | ok value => simp [Step.map, Answer.ofAttempt, passes value]

variable {e : Engine}

/-- Changing a session fails exactly if there is none. -/
theorem change_eq_error_iff {α : Type} {name : String} {f : Session → Session}
    {answer : Session → α} :
    (e.change name f answer).answer = .error failure ↔
      (if (e.session? name).isSome then none else some (.sessionNotFound name)) = some failure := by
  cases h : e.session? name with
  | none => simp [change_of_none h]
  | some s => simp [change_of_some h]

/-- Operations are refused as they are due to be. -/
theorem answer_refused_iff (op : Operation) :
    (e.perform op).answer = .refused failure ↔ e.refusal? op = some failure := by
  cases op with
  | create s =>
    rw [perform, refused_iff (by simp), refusal?]
    cases h : e.session? s.name with
    | none => simp [create_of_none h]
    | some old => simp [create_of_some h]
  | restore s now =>
    rw [perform, refused_iff (by simp), refusal?]
    cases h : e.session? s.name with
    | none => simp [restore_of_none h]
    | some old => simp [restore_of_some h]
  | close name =>
    rw [perform, refused_iff (by simp), refusal?]
    cases h : e.session? name with
    | none => simp [close_of_none h]
    | some s => simp [close_of_some h]
  | begin name prompt options number startedAt now =>
    rw [perform, refused_iff (by simp), refusal?]
    cases h : e.session? name with
    | none => simp [begin_of_none h]
    | some s =>
      -- A turn is refused to a busy session only where turns may not overlap.
      cases free : s.isProcessing && !options.allowOverlap with
      | true => simp [begin_of_busy h free, free]
      | false => simp [begin_of_free h free, free]
  | abort name now =>
    rw [perform, refused_iff (by simp), refusal?]
    cases h : e.session? name with
    | none => simp [abort_of_none h]
    | some s =>
      cases active : s.isProcessing || !s.queue.isEmpty || e.waiters.contains name with
      | true => simp [abort_of_active h active]
      | false => simp [abort_of_idle h active]
  | recover name text now =>
    rw [perform, refused_iff (by simp), refusal?]
    cases h : e.session? name with
    | none => simp [recover_of_none h]
    | some s =>
      cases active : s.isProcessing || !s.queue.isEmpty || e.waiters.contains name with
      | true => simp [recover_of_active h active]
      | false => simp [recover_of_idle h active]
  | nextGeneration | enqueue | postNotice | setModel =>
    exact (refused_iff (by simp) _).trans change_eq_error_iff
  | apply | complete | takeNext => simp [perform, Step.map, refusal?]

end Refused

end Engine

/-! ## Organizations -/

namespace Organization

/-- What an operation is refused with; none if it is not refused. -/
def refusal? (o : Organization) : Operation → Option Failure
  | .createGroup .. | .reconcile .. => none
  | .deleteGroup id | .setMode id _ | .setReflection id _ =>
    if (o.group? id).isSome then none else some (noGroup id)
  | .addMember id session _ =>
    if (o.group? id).isSome then
      match Session.checkName session with
      | .error failure => some failure
      | .ok () => none
    else some (noGroup id)
  | .removeMember session | .setPersona session _ | .setPreferredModel session _ =>
    if (o.member? session).isSome then none else some (.memberNotFound session)
  | .promote id session =>
    if (o.group? id).isSome then
      if (o.member? session).any (·.group == id) then none else some (.memberNotFound session)
    else some (noGroup id)

/-- An answer to an operation with the refusal that is due: the refusal and nothing else, or
anything but a refusal. -/
def AsDue (o : Organization) (refusal : Option Failure) (answered : Answer × Organization) : Prop :=
  match refusal with
  | some failure => answered = (.refused failure, o)
  | none => ∀ failure, answered.1 ≠ .refused failure

section Refused

variable {o : Organization} {id : Id} {session : String}

/-- What was done is not refused. -/
theorem asDue_done {α : Type} {wrap : α → Answer}
    (passes : ∀ value failure, wrap value ≠ .refused failure) (value : α) (after : Organization) :
    o.AsDue none (Answer.ofAttempt wrap (.ok value, after)) :=
  fun failure => passes value failure

/-- Changing a group is refused exactly if it is not there. -/
theorem updateGroup_asDue (f : Group → Group) :
    o.AsDue (if (o.group? id).isSome then none else some (noGroup id))
      (Answer.ofAttempt (fun _ => .done) (o.updateGroup id f)) := by
  unfold updateGroup
  cases o.group? id with
  | none => rfl
  | some group => exact asDue_done (by simp) _ _

/-- Changing a member is refused exactly if it is not there. -/
theorem updateMember_asDue (f : Member → Member) :
    o.AsDue (if (o.member? session).isSome then none else some (.memberNotFound session))
      (Answer.ofAttempt (fun _ => .done) (o.updateMember session f)) := by
  unfold updateMember
  cases o.member? session with
  | none => rfl
  | some member => exact asDue_done (by simp) _ _

/-- A member of a group that is there is promoted. -/
theorem promote_of_member {member : Member} (there : (o.group? id).isSome = true)
    (found : o.member? session = some member) (here : member.group = id) :
    ∃ demoted after, o.promote id session = (.ok demoted, after) := by
  obtain ⟨group, present⟩ := Option.isSome_iff_exists.1 there
  simp only [promote, present, found, here, beq_self_eq_true, if_true]
  exact ⟨_, _, rfl⟩

/-- The organization with a session put into a group as a worker. -/
def joined (o : Organization) (id : Id) (session : String) : Organization :=
  match o.member? session with
  | some _ => o.modifyMember session fun m => { m with group := id, role := .worker }
  | none => { o with members := o.members ++ [.create session id] }

theorem group?_joined : (o.joined id session).group? id = o.group? id := by
  unfold joined
  split <;> rfl

/-- A session that joins a group is found there. -/
theorem member?_joined (o : Organization) (id : Id) (session : String) :
    ∃ member, (o.joined id session).member? session = some member ∧ member.group = id := by
  unfold joined
  cases found : o.member? session with
  | none =>
    have absent : o.member? (Member.create session id).session = none := found
    exact ⟨.create session id, (member?_concat o.groups absent session).trans (if_pos rfl), rfl⟩
  | some member =>
    have moved := @member?_modifyMember o session
      (fun m => { m with group := id, role := .worker }) (fun _ => rfl) session
    rw [if_pos rfl, found, Option.map_some] at moved
    exact ⟨_, moved, rfl⟩

theorem addMember_asDue (role : MemberRole) :
    o.AsDue (o.refusal? (.addMember id session role))
      (Answer.ofAttempt (fun _ => .done) (o.addMember id session role)) := by
  rw [refusal?]
  unfold addMember
  cases there : o.group? id with
  | none => rfl
  | some group =>
    cases Session.checkName session with
    | error failure => rfl
    | ok =>
      cases role with
      | worker => exact asDue_done (by simp) _ _
      | orchestrator =>
        -- whoever has joined can be promoted, so that the second step does not fail
        obtain ⟨member, found, here⟩ := o.member?_joined id session
        have present : ((o.joined id session).group? id).isSome = true := by
          rw [group?_joined, there, Option.isSome_some]
        obtain ⟨demoted, after, promoted⟩ := promote_of_member present found here
        show o.AsDue none (Answer.ofAttempt (fun _ => .done)
          (((o.joined id session).promote id session).1.map fun _ => (),
            ((o.joined id session).promote id session).2))
        rw [promoted]
        exact asDue_done (by simp) _ _

theorem promote_asDue :
    o.AsDue (o.refusal? (.promote id session))
      (Answer.ofAttempt .demoted (o.promote id session)) := by
  rw [refusal?]
  unfold promote
  cases o.group? id with
  | none => rfl
  | some group =>
    cases o.member? session with
    | none => rfl
    | some member =>
      by_cases here : (member.group == id) = true
      · simp only [Option.isSome_some, if_true, Option.any_some, here]
        exact asDue_done (by simp) _ _
      · simp only [Option.isSome_some, if_true, Option.any_some, here]
        rfl

/-- Operations are refused as they are due to be. -/
theorem perform_asDue (o : Organization) (op : Operation) :
    o.AsDue (o.refusal? op) (o.perform op) := by
  cases op with
  | createGroup id name mode isMultiAgent now => simp [AsDue, refusal?, perform]
  | deleteGroup id =>
    rw [perform, refusal?, deleteGroup]
    cases o.group? id with
    | none => rfl
    | some group => exact asDue_done (by simp) _ _
  | addMember id session role => exact addMember_asDue role
  | removeMember session =>
    rw [perform, refusal?, removeMember]
    cases o.member? session with
    | none => rfl
    | some group => exact asDue_done (by simp) _ _
  | promote id session => exact promote_asDue
  | setMode id mode => exact updateGroup_asDue _
  | setPersona session persona => exact updateMember_asDue _
  | setPreferredModel session model => exact updateMember_asDue _
  | setReflection id cycle => exact updateGroup_asDue _
  | reconcile fresh now placements lookup => simp [AsDue, refusal?, perform]

variable {op : Operation} {failure : Failure}

theorem answer_eq_refused_iff :
    (o.perform op).1 = .refused failure ↔ o.refusal? op = some failure := by
  have due := perform_asDue o op
  cases h : o.refusal? op with
  | none =>
    rw [h] at due
    exact iff_of_false (due failure) (by simp)
  | some other =>
    rw [h] at due
    rw [show o.perform op = _ from due]
    simp

/-- A refused operation comes to its refusal only. -/
theorem perform_eq_of_refused (refused : (o.perform op).1 = .refused failure) :
    o.perform op = (.refused failure, o) := by
  have due := perform_asDue o op
  rw [answer_eq_refused_iff.1 refused] at due
  exact due

end Refused

end Organization

/-- In every state that a run reaches, an operation of the engine is refused exactly if it is due to
be, and then the engine is left as it was and nobody is told anything.  So it is with operations on
an organization. -/
theorem refused_changes_nothing (ops : List Engine.Operation) (op : Engine.Operation)
    (o : Organization) (change : Organization.Operation) :
    let e := Engine.empty.after ops
    (∀ failure,
      ((e.perform op).answer = .refused failure ↔ e.refusal? op = some failure) ∧
        ((e.perform op).answer = .refused failure →
          e.perform op = ⟨.refused failure, e, []⟩)) ∧
      ∀ failure,
        ((o.perform change).1 = .refused failure ↔ o.refusal? change = some failure) ∧
          ((o.perform change).1 = .refused failure → o.perform change = (.refused failure, o)) := by
  intro e
  have owned : (e.desk op.target).Owned := Engine.owned_after ops op.target
  refine ⟨fun failure => ⟨Engine.answer_refused_iff op, Engine.perform_eq_of_refused owned⟩,
    fun failure => ⟨Organization.answer_eq_refused_iff, Organization.perform_eq_of_refused⟩⟩

/-- A session that is not there is closed while another one has a turn open, and a session with a
blank name is to lead a group. -/
theorem absent_and_blank_refused :
    let now : Timestamp := ⟨0, 0⟩
    let e := Engine.empty.after [.create (.fresh "a" "m" now),
      .begin "a" "go" ⟨false, false⟩ 1 now now]
    let team : Id := ⟨7⟩
    let o := Organization.empty.createGroup team "team" .orchestrator false now
    e.perform (.close "b") = ⟨.refused (.sessionNotFound "b"), e, []⟩ ∧
      o.perform (.addMember team " " .orchestrator) = (.refused (.invalid .emptyName), o) := by
  intro now e team o
  obtain ⟨engine, organization⟩ := refused_changes_nothing
    [.create (.fresh "a" "m" now), .begin "a" "go" ⟨false, false⟩ 1 now now] (.close "b") o
    (.addMember team " " .orchestrator)
  exact ⟨(engine _).2 (by decide), (organization _).2 (by decide)⟩

end Ensemble
