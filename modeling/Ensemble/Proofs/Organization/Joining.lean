import Ensemble.Proofs.Organization.Reachable

/-!
# The order of joining

The members of a group are read off the list of all members.  An operation drops some members and
adds others at the end, but those who stay keep the order they are in, whatever becomes of their
groups: this is `Continues`, which `perform_continues` has for every operation.  Over a run it gives
`inOrder_after`, that a session does not come to stand before one that was in the group when it
joined, unless it was moved in from another group.

`sublist_of_joinsAfter` says so of the members of the group.
-/

namespace Ensemble.Organization

/-- The sessions that are members, in the order of the members. -/
def sessions (o : Organization) : List String :=
  o.members.map (·.session)

/-- The sessions that are members of a group, in the order of the members. -/
def sessionsOf (o : Organization) (group : Id) : List String :=
  (o.membersOf group).map (·.session)

/-- The members of a group keep the order of all members. -/
theorem sessionsOf_sublist (o : Organization) (group : Id) :
    (o.sessionsOf group).Sublist o.sessions :=
  List.filter_sublist.map _

/-- A session is found as a member if it is among the sessions. -/
theorem member?_eq_none_iff {o : Organization} {session : String} :
    o.member? session = none ↔ session ∉ o.sessions := by
  simp [member?, sessions]

/-! ## What an operation does to the order -/

/-- Some sessions are dropped, and others that were not there are added at the end. -/
def Continues (before after : List String) : Prop :=
  ∃ kept joined, after = kept ++ joined ∧ kept.Sublist before ∧
    ∀ session ∈ joined, session ∉ before

namespace Continues

/-- Sessions may be dropped. -/
theorem of_sublist {before after : List String} (sub : after.Sublist before) :
    Continues before after :=
  ⟨after, [], (List.append_nil after).symm, sub, fun _ mem => absurd mem List.not_mem_nil⟩

/-- Nothing needs to change. -/
theorem of_eq {before after : List String} (same : after = before) : Continues before after :=
  of_sublist (same ▸ List.Sublist.refl _)

/-- A session that was not there may be added. -/
theorem concat {before : List String} {session : String} (absent : session ∉ before) :
    Continues before (before ++ [session]) := by
  refine ⟨before, [session], rfl, List.Sublist.refl _, fun other mem => ?_⟩
  rw [List.mem_singleton.1 mem]
  exact absent

end Continues

section Operations

variable {o : Organization}

/-- Changing a group changes no member. -/
theorem sessions_updateGroup (id : Id) (f : Group → Group) :
    (o.updateGroup id f).2.sessions = o.sessions := by
  unfold updateGroup
  split <;> rfl

/-- Changing a member in place changes no order. -/
theorem sessions_modifyMember (session : String) {f : Member → Member}
    (same : ∀ m, (f m).session = m.session) : (o.modifyMember session f).sessions = o.sessions :=
  map_modifyFirst same

/-- Changing a member that must be there changes no order. -/
theorem sessions_updateMember (session : String) {f : Member → Member}
    (same : ∀ m, (f m).session = m.session) :
    (o.updateMember session f).2.sessions = o.sessions := by
  unfold updateMember
  split
  · rfl
  · exact sessions_modifyMember session same

/-- Promoting a member changes no order. -/
theorem sessions_promote (id : Id) (session : String) :
    (o.promote id session).2.sessions = o.sessions := by
  unfold promote
  split
  next => rfl
  next => rfl
  next =>
    split
    · rw [sessions, List.map_map]
      exact List.map_congr_left fun m _ => crown_session id session m
    · rfl

/-- A new member stands at the end. -/
theorem sessions_concat (groups : List Group) (session : String) (id : Id) :
    (⟨groups, o.members ++ [.create session id]⟩ : Organization).sessions =
      o.sessions ++ [session] := by
  rw [sessions, List.map_append]
  rfl

/-- Adding a member puts it at the end, unless it moves and stays where it is. -/
theorem addMember_continues (id : Id) (session : String) (role : MemberRole) :
    Continues o.sessions (o.addMember id session role).2.sessions := by
  unfold addMember
  cases o.group? id with
  | none => exact .of_eq rfl
  | some _ =>
    cases Session.checkName session with
    | error _ => exact .of_eq rfl
    | ok _ =>
      -- Only whether the session is a member already matters to the order, not the role.
      cases present : o.member? session with
      | some _ =>
        have moved := sessions_modifyMember (o := o) session
          (f := fun m => { m with group := id, role := .worker }) fun _ => rfl
        cases role with
        | worker => exact .of_eq moved
        | orchestrator => exact .of_eq ((sessions_promote id session).trans moved)
      | none =>
        have joined := Continues.concat (member?_eq_none_iff.1 present)
        rw [← sessions_concat o.groups session id] at joined
        cases role with
        | worker => exact joined
        | orchestrator =>
          have promoted := sessions_promote id session
            (o := ⟨o.groups, o.members ++ [.create session id]⟩)
          rw [← promoted] at joined
          exact joined

/-- Removing a member drops its session. -/
theorem removeMember_continues (session : String) :
    Continues o.sessions (o.removeMember session).2.sessions := by
  unfold removeMember
  split
  · exact .of_eq rfl
  · exact .of_sublist (List.eraseP_sublist.map _)

/-- Deleting a group drops the sessions of its members. -/
theorem deleteGroup_continues (id : Id) :
    Continues o.sessions (o.deleteGroup id).2.sessions := by
  unfold deleteGroup
  split
  · exact .of_eq rfl
  · exact .of_sublist (List.filter_sublist.map _)

end Operations

/-! ### Placement -/

namespace Progress

variable {before : Organization} {fresh : Nat → Id} {now : Timestamp}
  {lookup : String → Option String} {placement : Placement} {p q : Progress}

/-- Placing a session adds it at the end if it is no member, and keeps the order otherwise. -/
theorem Placing.sessions (placing : Placing before fresh now lookup placement p q) :
    q.organization.sessions = p.organization.sessions ∨
      placement.session ∉ p.organization.sessions ∧
        q.organization.sessions = p.organization.sessions ++ [placement.session] := by
  have grouped (repository : String) :
      (p.groupFor fresh now repository).2.organization.sessions = p.organization.sessions := by
    rw [Organization.sessions, groupFor_members, Organization.sessions]
  cases placing with
  | settled | homeless => exact .inl rfl
  | there => exact .inl (grouped _)
  | @moved repository =>
    exact .inl (Eq.trans (sessions_modifyMember _ fun _ => rfl) (grouped repository))
  | joined _ absent =>
    refine .inr ⟨member?_eq_none_iff.1 absent, ?_⟩
    rw [sessions_concat, grouped]

/-- Placing sessions one after another adds some of them at the end. -/
theorem sessions_foldl (placements : List Placement) (p : Progress) :
    ∃ joined, (placements.foldl (place before fresh now lookup) p).organization.sessions =
        p.organization.sessions ++ joined ∧
      ∀ session ∈ joined, session ∉ p.organization.sessions ∧
        ∃ placement ∈ placements, placement.session = session := by
  induction placements generalizing p with
  | nil => exact ⟨[], (List.append_nil _).symm, fun _ mem => absurd mem List.not_mem_nil⟩
  | cons placement rest ih =>
    obtain ⟨joined, placed, new⟩ := ih (p.place before fresh now lookup placement)
    rw [List.foldl_cons, placed]
    have placing := place_placing before fresh now lookup placement p
    -- A placement adds its session at the end or leaves the list as it is.
    rcases placing.sessions with same | ⟨absent, added⟩
    · rw [same] at new ⊢
      refine ⟨joined, rfl, fun session mem => ?_⟩
      obtain ⟨absent, of, later, rfl⟩ := new session mem
      exact ⟨absent, of, List.mem_cons_of_mem _ later, rfl⟩
    · rw [added] at new ⊢
      refine ⟨placement.session :: joined, List.append_assoc _ _ _, ?_⟩
      have first : placement ∈ placement :: rest := List.mem_cons_self
      refine List.forall_mem_cons.2 ⟨⟨absent, placement, first, rfl⟩, fun session mem => ?_⟩
      obtain ⟨absent, of, later, rfl⟩ := new session mem
      refine ⟨fun old => absent (List.mem_append_left _ old), of, ?_, rfl⟩
      exact List.mem_cons_of_mem _ later

end Progress

/-- Whom reconciliation adds was no member before: a member that was dropped is not placed. -/
theorem reconcile_continues (o : Organization) (fresh : Nat → Id) (now : Timestamp)
    (placements : List Placement) (lookup : String → Option String) :
    Continues o.sessions (o.reconcile fresh now placements lookup).2.sessions := by
  let isLive (m : Member) : Bool := placements.any fun p => p.session == m.session
  let before : Organization := { o with members := o.members.filter isLive }
  obtain ⟨joined, placed, new⟩ :=
    @Progress.sessions_foldl before fresh now lookup placements _
  refine ⟨_, joined, placed, List.filter_sublist.map _, fun session mem old => ?_⟩
  obtain ⟨absent, placement, placed, rfl⟩ := new session mem
  obtain ⟨m, member, same⟩ := List.mem_map.1 old
  -- a session that is placed is running, so its member was not dropped
  refine absent (List.mem_map.2 ⟨m, List.mem_filter.2 ⟨member, ?_⟩, same⟩)
  exact List.any_eq_true.2 ⟨placement, placed, beq_iff_eq.2 same.symm⟩

/-- Every operation drops sessions and adds others at the end. -/
theorem perform_continues (o : Organization) (op : Operation) :
    Continues o.sessions (o.perform op).2.sessions := by
  cases op with
  | createGroup id name mode isMultiAgent now => exact .of_eq rfl
  | deleteGroup id =>
    rw [perform, ofAttempt_snd]
    exact deleteGroup_continues id
  | addMember id session role =>
    rw [perform, ofAttempt_snd]
    exact addMember_continues id session role
  | removeMember session =>
    rw [perform, ofAttempt_snd]
    exact removeMember_continues session
  | promote id session =>
    rw [perform, ofAttempt_snd]
    exact .of_eq (sessions_promote id session)
  | setMode id mode =>
    rw [perform, ofAttempt_snd]
    exact .of_eq (sessions_updateGroup id _)
  | setPersona session persona =>
    rw [perform, ofAttempt_snd]
    exact .of_eq (sessions_updateMember session fun _ => rfl)
  | setPreferredModel session model =>
    rw [perform, ofAttempt_snd]
    exact .of_eq (sessions_updateMember session fun _ => rfl)
  | setReflection id cycle =>
    rw [perform, ofAttempt_snd]
    exact .of_eq (sessions_updateGroup id _)
  | reconcile fresh now placements lookup => exact reconcile_continues o fresh now placements lookup

/-! ## Who stands before whom -/

/-- The second of two sessions does not stand before the first. -/
def InOrder (first second : String) (sessions : List String) : Prop :=
  sessions.Pairwise fun earlier later => earlier = second → later ≠ first

variable {first second : String}

/-- The order is kept where the first session stays, or the second comes later. -/
theorem Continues.inOrder {before after : List String} (continues : Continues before after)
    (there : first ∈ before) (ordered : second ∈ before → InOrder first second before) :
    InOrder first second after := by
  obtain ⟨kept, joined, rfl, sub, new⟩ := continues
  have others : ∀ later ∈ joined, later ≠ first := by
    rintro later mem rfl
    exact new later mem there
  refine List.pairwise_append.2 ⟨?_, ?_, fun _ _ later mem _ => others later mem⟩
  · by_cases present : second ∈ before
    · exact (ordered present).sublist sub
    · refine List.pairwise_of_forall_mem_list fun earlier mem _ _ same => ?_
      exact absurd (sub.subset mem) (same ▸ present)
  · exact List.pairwise_of_forall_mem_list fun _ _ later mem _ => others later mem

/-- Two sessions in order that are both there are there one after the other. -/
theorem InOrder.pair_sublist {sessions : List String} (ordered : InOrder first second sessions)
    (distinct : second ≠ first) (there : first ∈ sessions) (present : second ∈ sessions) :
    [first, second].Sublist sessions := by
  obtain ⟨front, back, rfl⟩ := List.append_of_mem there
  have apart := (List.pairwise_append.1 ordered).2.2
  rcases List.mem_append.1 present with ahead | behind
  · exact absurd rfl (apart second ahead first List.mem_cons_self rfl)
  · have later : second ∈ back := (List.mem_cons.1 behind).resolve_left distinct
    exact ((List.singleton_sublist.2 later).cons_cons first).trans (List.sublist_append_right _ _)

/-! ## Runs of operations -/

/-- An organization after operations. -/
def after (o : Organization) (ops : List Operation) : Organization :=
  ops.foldl (fun o op => (o.perform op).2) o

/-- A session is in a group all the time that operations are carried out, and another one gets into
the group meanwhile and is there in the end. -/
structure JoinsAfter (o : Organization) (ops : List Operation) (group : Id)
    (first second : String) : Prop where
  stays : ∀ k, first ∈ (o.after (ops.take k)).sessionsOf group
  late : second ∉ o.sessionsOf group
  joins : second ∈ (o.after ops).sessionsOf group
  /-- Whenever it gets into the group, it has been in no group before. -/
  recruited : ∀ k, second ∈ (o.after (ops.take (k + 1))).sessionsOf group →
    second ∈ (o.after (ops.take k)).sessionsOf group ∨
      (o.after (ops.take k)).member? second = none

/-- A session in a group stays before those that get into it without being moved. -/
theorem inOrder_after {o : Organization} {ops : List Operation} {group : Id}
    (ordered : second ∈ o.sessionsOf group → InOrder first second o.sessions)
    (stays : ∀ k, first ∈ (o.after (ops.take k)).sessionsOf group)
    (recruited : ∀ k, second ∈ (o.after (ops.take (k + 1))).sessionsOf group →
      second ∈ (o.after (ops.take k)).sessionsOf group ∨
        (o.after (ops.take k)).member? second = none)
    (joins : second ∈ (o.after ops).sessionsOf group) :
    InOrder first second (o.after ops).sessions := by
  induction ops generalizing o with
  | nil => exact ordered joins
  | cons op rest ih =>
    refine ih (fun present => ?_) (fun k => stays (k + 1)) (fun k => recruited (k + 1)) joins
    refine (perform_continues o op).inOrder ((sessionsOf_sublist o group).subset (stays 0))
      fun old => ?_
    -- the session was in the group already: as a member it cannot have been recruited
    rcases recruited 0 present with inside | absent
    · exact ordered inside
    · exact absurd old (member?_eq_none_iff.1 absent)

/-- Of two members of a group the one that was there when the other joined comes first. -/
theorem sublist_of_joinsAfter {o : Organization} {ops : List Operation} {group : Id}
    (h : o.JoinsAfter ops group first second) :
    [first, second].Sublist ((o.after ops).sessionsOf group) := by
  have there : first ∈ (o.after ops).sessionsOf group := by
    have last := h.stays ops.length
    rwa [List.take_length] at last
  have ordered : InOrder first second ((o.after ops).sessionsOf group) :=
    (inOrder_after (fun early => absurd early h.late) h.stays h.recruited h.joins).sublist
      (sessionsOf_sublist _ group)
  refine ordered.pair_sublist ?_ there h.joins
  rintro rfl
  exact h.late (h.stays 0)

end Ensemble.Organization
