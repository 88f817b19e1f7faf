import Ensemble.Organization.Operation
import Mathlib.Data.List.Nodup

/-!
# Well-formed organizations

What the parts of an organization owe each other is said by two structures, one for the groups and
one for the members, which depend on the groups only by their identifiers.  Groups and members are
lists, and an operation does one of three things to a list: it drops some items, adds one at the
end, or changes the first item with a property.  For each of these there is one lemma about groups
and one about members, and for each operation it remains to say which of them applies.
-/

namespace Ensemble

/-! ## Changing the first item with a property -/

section ModifyFirst

variable {α : Type} {p : α → Bool} {f : α → α} {l : List α}

/-- What holds of all items, and of the changed item, holds of all items afterwards. -/
theorem forall_mem_modifyFirst {P : α → Prop} (all : ∀ x ∈ l, P x)
    (changed : ∀ x, l.find? p = some x → P (f x)) : ∀ y ∈ modifyFirst p f l, P y := by
  induction l with
  | nil => exact all
  | cons x rest ih =>
    have head := all x List.mem_cons_self
    have tail : ∀ y ∈ rest, P y := fun y mem => all y (List.mem_cons_of_mem x mem)
    rw [modifyFirst]
    -- What is found first in the rest is found first in the list, when the head is not it.
    by_cases first : p x = true
    · rw [if_pos first]
      exact List.forall_mem_cons.2 ⟨changed x (List.find?_cons_of_pos first), tail⟩
    · rw [if_neg first]
      rw [List.find?_cons_of_neg first] at changed
      exact List.forall_mem_cons.2 ⟨head, ih tail changed⟩

/-- No more items count than before if the changed item counts only if it did before. -/
theorem countP_modifyFirst_le {q : α → Bool}
    (kept : ∀ x, l.find? p = some x → q (f x) = true → q x = true) :
    (modifyFirst p f l).countP q ≤ l.countP q := by
  induction l with
  | nil => exact Nat.le_refl _
  | cons x rest ih =>
    rw [modifyFirst]
    by_cases first : p x = true
    · -- the item that changes is found here, and counts afterwards only if it did before
      have head := kept x (List.find?_cons_of_pos first)
      rw [if_pos first, List.countP_cons, List.countP_cons]
      by_cases counts : q (f x) = true
      · exact Nat.le_of_eq (by rw [if_pos counts, if_pos (head counts)])
      · rw [if_neg counts]
        exact Nat.add_le_add_left (Nat.zero_le _) _
    · rw [List.find?_cons_of_neg first] at kept
      rw [if_neg first, List.countP_cons, List.countP_cons]
      exact Nat.add_le_add_right (ih kept) _

/-- What the change leaves of each item stays the same all along the list. -/
theorem map_modifyFirst {β : Type} {g : α → β} (same : ∀ x, g (f x) = g x) :
    (modifyFirst p f l).map g = l.map g := by
  induction l with
  | nil => rfl
  | cons x rest ih =>
    rw [modifyFirst]
    split
    · rw [List.map_cons, List.map_cons, same]
    · rw [List.map_cons, List.map_cons, ih]

end ModifyFirst

/-- Whether a member is the orchestrator of a group. -/
def Member.leads (id : Id) (m : Member) : Bool :=
  m.group == id && m.isOrchestrator

namespace Organization

/-! ## Groups -/

/-- Groups have identifiers of their own, work in other modes than broadcast only as multi-agent
groups, and are at most one for each repository unless they are multi-agent groups. -/
structure SoundGroups (groups : List Group) : Prop where
  ids : (groups.map (·.id)).Nodup
  moded : ∀ g ∈ groups, g.mode ≠ .broadcast → g.isMultiAgent = true
  homes : ∀ repository, groups.countP (isGroupOf repository) ≤ 1

namespace SoundGroups

variable {groups : List Group}

/-- Some of the groups are sound if all of them are. -/
theorem sublist (h : SoundGroups groups) {left : List Group} (sub : left.Sublist groups) :
    SoundGroups left where
  ids := (sub.map _).nodup h.ids
  moded := fun g mem => h.moded g (sub.subset mem)
  homes := fun repository => Nat.le_trans sub.countP_le (h.homes repository)

/-- A group with an identifier of its own can be added, unless its repository has a group already.
-/
theorem concat (h : SoundGroups groups) {g : Group} (fresh : g.id ∉ groups.map (·.id))
    (moded : g.mode ≠ .broadcast → g.isMultiAgent = true)
    (home : ∀ repository, isGroupOf repository g = true →
      groups.find? (isGroupOf repository) = none) :
    SoundGroups (groups ++ [g]) := by
  refine ⟨?_, fun g' mem => ?_, fun repository => ?_⟩
  · rw [List.map_append, List.map_singleton, ← List.concat_eq_append]
    exact h.ids.concat fresh
  · rcases List.mem_append.1 mem with old | new
    · exact h.moded g' old
    · rw [List.mem_singleton.1 new]
      exact moded
  · rw [List.countP_append, List.countP_singleton]
    by_cases own : isGroupOf repository g = true
    · -- the new group counts for its repository, which had none
      have alone : groups.countP (isGroupOf repository) = 0 :=
        List.countP_eq_zero.2 (List.find?_eq_none.1 (home repository own))
      exact Nat.le_of_eq (by rw [alone, if_pos own])
    · rw [if_neg own]
      exact h.homes repository

/-- A group can be changed as long as it keeps its identifier, the rule for modes and its
repository. -/
theorem modify (h : SoundGroups groups) {p : Group → Bool} {f : Group → Group}
    (id : ∀ g, (f g).id = g.id)
    (moded : ∀ g, (g.mode ≠ .broadcast → g.isMultiAgent = true) →
      (f g).mode ≠ .broadcast → (f g).isMultiAgent = true)
    (home : ∀ repository g, isGroupOf repository (f g) = true → isGroupOf repository g = true) :
    SoundGroups (modifyFirst p f groups) := by
  refine ⟨?_, ?_, fun repository => ?_⟩
  · rw [map_modifyFirst id]
    exact h.ids
  · refine forall_mem_modifyFirst h.moded fun g found => ?_
    exact moded g (h.moded g (List.mem_of_find?_eq_some found))
  · have fewer := countP_modifyFirst_le (l := groups) (p := p) fun g _ => home repository g
    exact Nat.le_trans fewer (h.homes repository)

end SoundGroups

/-! ## Members -/

section Crown

variable (id : Id) (session : String) (m : Member)

/-- Whoever is crowned, members stay the sessions that they are. -/
theorem crown_session : (crown id session m).session = m.session := by
  unfold crown
  split
  · split <;> rfl
  · rfl

/-- Whoever is crowned, members stay in their groups. -/
theorem crown_group : (crown id session m).group = m.group := by
  unfold crown
  split
  · split <;> rfl
  · rfl

variable {id : Id} {session : String} {m : Member}

/-- No other session leads the group afterwards. -/
theorem session_eq_of_crown_leads (leads : (crown id session m).leads id = true) :
    m.session = session := by
  obtain ⟨inside, orchestrator⟩ := Bool.and_eq_true_iff.1 leads
  rw [crown_group] at inside
  rw [crown, if_pos inside] at orchestrator
  by_contra other
  rw [if_neg (mt beq_iff_eq.1 other)] at orchestrator
  cases orchestrator

/-- Other groups keep who leads them. -/
theorem crown_leads_of_ne {id' : Id} (other : id' ≠ id) :
    (crown id session m).leads id' = m.leads id' := by
  by_cases inside : (m.group == id) = true
  · have elsewhere : (m.group == id') = false := by
      rw [beq_iff_eq.1 inside]
      exact beq_eq_false_iff_ne.2 other.symm
    rw [Member.leads, Member.leads, crown_group, elsewhere, Bool.false_and, Bool.false_and]
  · rw [crown, if_neg inside]

end Crown

/-- Members are sessions of their own, in groups that are there, of which each has at most one
orchestrator. -/
structure SoundMembers (ids : List Id) (members : List Member) : Prop where
  sessions : (members.map (·.session)).Nodup
  grouped : ∀ m ∈ members, m.group ∈ ids
  led : ∀ id, members.countP (·.leads id) ≤ 1

namespace SoundMembers

variable {ids : List Id} {members : List Member}

/-- Some of the members are sound if all of them are. -/
theorem sublist (h : SoundMembers ids members) {left : List Member}
    (sub : left.Sublist members) : SoundMembers ids left where
  sessions := (sub.map _).nodup h.sessions
  grouped := fun m mem => h.grouped m (sub.subset mem)
  led := fun id => Nat.le_trans sub.countP_le (h.led id)

/-- The groups may change as long as those with members stay. -/
theorem regroup (h : SoundMembers ids members) {ids' : List Id}
    (kept : ∀ m ∈ members, m.group ∈ ids → m.group ∈ ids') : SoundMembers ids' members where
  sessions := h.sessions
  grouped := fun m mem => kept m mem (h.grouped m mem)
  led := h.led

/-- A session that is no member can be added to a group that is there, as a worker. -/
theorem concat (h : SoundMembers ids members) {session : String} {id : Id}
    (absent : members.find? (·.session == session) = none) (there : id ∈ ids) :
    SoundMembers ids (members ++ [.create session id]) := by
  refine ⟨?_, fun m mem => ?_, fun id' => ?_⟩
  · rw [List.map_append, List.map_singleton, ← List.concat_eq_append]
    refine h.sessions.concat fun mem => ?_
    -- another member of that session would have been found
    obtain ⟨m, mem, same⟩ := List.mem_map.1 mem
    exact List.find?_eq_none.1 absent m mem (beq_iff_eq.2 same)
  · rcases List.mem_append.1 mem with old | new
    · exact h.grouped m old
    · rw [List.mem_singleton.1 new]
      exact there
  · have worker : (Member.create session id).leads id' = false := Bool.and_false _
    rw [List.countP_append, List.countP_singleton, worker]
    exact h.led id'

/-- The first member with a property can be changed as long as it stays the same session, in a group
that is there, and leads no group that it did not lead before. -/
theorem modify (h : SoundMembers ids members) {p : Member → Bool} {f : Member → Member}
    (session : ∀ m, (f m).session = m.session)
    (grouped : ∀ m, members.find? p = some m → (f m).group ∈ ids)
    (led : ∀ id m, members.find? p = some m → (f m).leads id = true → m.leads id = true) :
    SoundMembers ids (modifyFirst p f members) := by
  refine ⟨?_, forall_mem_modifyFirst h.grouped grouped, fun id => ?_⟩
  · rw [map_modifyFirst session]
    exact h.sessions
  · exact Nat.le_trans (countP_modifyFirst_le (led id)) (h.led id)

/-- A session is at most one member. -/
theorem countP_session (h : SoundMembers ids members) (session : String) :
    members.countP (·.session == session) ≤ 1 := by
  have once := List.nodup_iff_count_le_one.1 h.sessions session
  rwa [List.count_eq_countP, List.countP_map] at once

/-- Crowning a session leaves the members sound: it is the only one that leads the group afterwards.
-/
theorem crown (h : SoundMembers ids members) (id : Id) (session : String) :
    SoundMembers ids (members.map (crown id session)) := by
  refine ⟨?_, fun m' mem => ?_, fun id' => ?_⟩
  · have same : (members.map (Organization.crown id session)).map (·.session) =
        members.map (·.session) := by
      rw [List.map_map]
      exact List.map_congr_left fun m _ => crown_session id session m
    rw [same]
    exact h.sessions
  · obtain ⟨m, old, rfl⟩ := List.mem_map.1 mem
    rw [crown_group]
    exact h.grouped m old
  · rw [List.countP_map]
    by_cases here : id' = id
    · -- Only the session itself leads the group now.
      subst here
      refine Nat.le_trans (List.countP_mono_left fun m _ leads => ?_) (h.countP_session session)
      exact beq_iff_eq.2 (session_eq_of_crown_leads leads)
    · -- Nothing changes in any other group.
      refine Nat.le_trans (List.countP_mono_left fun m _ leads => ?_) (h.led id')
      rwa [← crown_leads_of_ne here]

end SoundMembers

/-! ## Organizations -/

/-- Groups and members are sound, the members with respect to the groups. -/
structure WellFormed (o : Organization) : Prop where
  groups : SoundGroups o.groups
  members : SoundMembers (o.groups.map (·.id)) o.members

/-- There is nothing to be unsound in an empty organization. -/
theorem empty_wellFormed : WellFormed .empty where
  groups := ⟨List.nodup_nil, (fun _ mem => by cases mem), fun _ => Nat.zero_le 1⟩
  members := ⟨List.nodup_nil, (fun _ mem => by cases mem), fun _ => Nat.zero_le 1⟩

/-- A group that is found has one of the identifiers. -/
theorem mem_ids_of_group? {o : Organization} {id : Id} {g : Group} (found : o.group? id = some g) :
    id ∈ o.groups.map (·.id) := by
  have same : g.id = id := beq_iff_eq.1 (List.find?_some (p := fun g : Group => g.id == id) found)
  rw [← same]
  exact List.mem_map_of_mem (List.mem_of_find?_eq_some found)

namespace WellFormed

variable {o : Organization}

/-- A group with an identifier of its own may be added, if it is for no repository that has one. -/
theorem addGroup (h : WellFormed o) {g : Group} (fresh : g.id ∉ o.groups.map (·.id))
    (moded : g.mode ≠ .broadcast → g.isMultiAgent = true)
    (home : ∀ repository, isGroupOf repository g = true →
      o.groups.find? (isGroupOf repository) = none) :
    WellFormed { o with groups := o.groups ++ [g] } where
  groups := h.groups.concat fresh moded home
  members := h.members.regroup fun m _ there => by
    rw [List.map_append]
    exact List.mem_append_left _ there

/-- Creating a group with a fresh identifier keeps an organization well formed. -/
theorem createGroup (h : WellFormed o) {id : Id} (fresh : id ∉ o.groups.map (·.id))
    (name : String) (mode : GroupMode) (isMultiAgent : Bool) (now : Timestamp) :
    WellFormed (o.createGroup id name mode isMultiAgent now) := by
  refine h.addGroup fresh (fun other => ?_) (fun repository own => ?_)
  · exact Bool.or_eq_true_iff.2 (.inr (bne_iff_ne.2 other))
  · cases (Bool.and_eq_true_iff.1 own).2

/-- Groups without members may be dropped. -/
theorem dropGroups (h : WellFormed o) {groups : List Group} (sub : groups.Sublist o.groups)
    {members : List Member} (left : members.Sublist o.members)
    (kept : ∀ m ∈ members, ∀ g ∈ o.groups, g.id = m.group → g ∈ groups) :
    WellFormed ⟨groups, members⟩ where
  groups := h.groups.sublist sub
  members := (h.members.sublist left).regroup fun m mem there => by
    obtain ⟨g, old, same⟩ := List.mem_map.1 there
    exact List.mem_map.2 ⟨g, kept m mem g old same, same⟩

/-- Members may be dropped. -/
theorem dropMembers (h : WellFormed o) {members : List Member}
    (left : members.Sublist o.members) : WellFormed { o with members := members } where
  groups := h.groups
  members := h.members.sublist left

/-- Deleting a group takes its members along, and keeps an organization well formed. -/
theorem deleteGroup (h : WellFormed o) (id : Id) : WellFormed (o.deleteGroup id).2 := by
  unfold Organization.deleteGroup
  cases o.group? id with
  | none => exact h
  | some _ =>
    refine h.dropGroups List.eraseP_sublist List.filter_sublist fun m mem g old same => ?_
    have other : m.group ≠ id := bne_iff_ne.1 (List.mem_filter.1 mem).2
    have stays : ¬ (g.id == id) = true := by
      rw [same]
      exact mt beq_iff_eq.1 other
    exact (List.mem_eraseP_of_neg (p := fun g => g.id == id) stays).2 old

/-- Changing a group keeps an organization well formed as far as it keeps the groups sound. -/
theorem updateGroup (h : WellFormed o) (id : Id) {f : Group → Group}
    (same : ∀ g, (f g).id = g.id)
    (moded : ∀ g, (g.mode ≠ .broadcast → g.isMultiAgent = true) →
      (f g).mode ≠ .broadcast → (f g).isMultiAgent = true)
    (home : ∀ repository g, isGroupOf repository (f g) = true → isGroupOf repository g = true) :
    WellFormed (o.updateGroup id f).2 := by
  unfold Organization.updateGroup
  cases o.group? id with
  | none => exact h
  | some _ =>
    refine ⟨h.groups.modify same moded home, ?_⟩
    rw [modifyGroup, map_modifyFirst same]
    exact h.members

/-- Setting the mode of a group keeps an organization well formed. -/
theorem setMode (h : WellFormed o) (id : Id) (mode : GroupMode) :
    WellFormed (o.setMode id mode).2 := by
  refine h.updateGroup id (fun _ => rfl) (fun g _ other => ?_) (fun repository g own => ?_)
  · exact Bool.or_eq_true_iff.2 (.inr (bne_iff_ne.2 other))
  · -- A group that is not a multi-agent group now was none before.
    obtain ⟨single, here⟩ := Bool.and_eq_true_iff.1 own
    rw [Bool.not_or, Bool.and_eq_true] at single
    exact Bool.and_eq_true_iff.2 ⟨single.1, here⟩

/-- Setting the cycle of a group keeps an organization well formed. -/
theorem setReflection (h : WellFormed o) (id : Id) (cycle : Option Reflection.Cycle) :
    WellFormed (o.setReflection id cycle).2 :=
  h.updateGroup id (fun _ => rfl) (fun _ moded => moded) (fun _ _ own => own)

/-- The member that a session is may be changed in any way that keeps it a member of a group that is
there, and does not make it an orchestrator. -/
theorem modifyMember (h : WellFormed o) {session : String} {f : Member → Member}
    (same : ∀ m, (f m).session = m.session)
    (grouped : ∀ m, o.member? session = some m → (f m).group ∈ o.groups.map (·.id))
    (led : ∀ id m, o.member? session = some m → (f m).leads id = true → m.leads id = true) :
    WellFormed (o.modifyMember session f) where
  groups := h.groups
  members := h.members.modify same grouped led

/-- Changing a member keeps an organization well formed if session, group and role stay. -/
theorem updateMember (h : WellFormed o) (session : String) {f : Member → Member}
    (same : ∀ m, (f m).session = m.session ∧ (f m).group = m.group ∧ (f m).role = m.role) :
    WellFormed (o.updateMember session f).2 := by
  unfold Organization.updateMember
  cases o.member? session with
  | none => exact h
  | some _ =>
    refine h.modifyMember (fun m => (same m).1) (fun m found => ?_) (fun id m _ leads => ?_)
    · rw [(same m).2.1]
      exact h.members.grouped m (List.mem_of_find?_eq_some found)
    · rwa [Member.leads, Member.isOrchestrator, (same m).2.1, (same m).2.2] at leads

/-- Setting a persona keeps an organization well formed. -/
theorem setPersona (h : WellFormed o) (session : String) (persona : Option String) :
    WellFormed (o.setPersona session persona).2 :=
  h.updateMember session fun _ => ⟨rfl, rfl, rfl⟩

/-- Setting a preferred model keeps an organization well formed. -/
theorem setPreferredModel (h : WellFormed o) (session : String) (model : Option String) :
    WellFormed (o.setPreferredModel session model).2 :=
  h.updateMember session fun _ => ⟨rfl, rfl, rfl⟩

/-- A session that is no member may be put into a group that is there. -/
theorem addNewMember (h : WellFormed o) {session : String} {id : Id}
    (absent : o.member? session = none) (there : id ∈ o.groups.map (·.id)) :
    WellFormed { o with members := o.members ++ [.create session id] } where
  groups := h.groups
  members := h.members.concat absent there

/-- Removing a member keeps an organization well formed. -/
theorem removeMember (h : WellFormed o) (session : String) :
    WellFormed (o.removeMember session).2 := by
  unfold Organization.removeMember
  cases o.member? session with
  | none => exact h
  | some _ => exact h.dropMembers List.eraseP_sublist

/-- Promoting a member keeps an organization well formed, as the others are demoted. -/
theorem promote (h : WellFormed o) (id : Id) (session : String) :
    WellFormed (o.promote id session).2 := by
  unfold Organization.promote
  split
  next => exact h
  next => exact h
  next =>
    split
    · exact ⟨h.groups, h.members.crown id session⟩
    · exact h

/-- Adding a member keeps an organization well formed, whether it is new or moves. -/
theorem addMember (h : WellFormed o) (id : Id) (session : String) (role : MemberRole) :
    WellFormed (o.addMember id session role).2 := by
  unfold Organization.addMember
  cases found : o.group? id with
  | none => exact h
  | some g =>
    have there := mem_ids_of_group? found
    cases Session.checkName session with
    | error => exact h
    | ok =>
      -- The session is a worker of the group first, and may be promoted then.
      cases present : o.member? session with
      | none =>
        have joined := h.addNewMember present there
        cases role with
        | worker => exact joined
        | orchestrator => exact joined.promote id session
      | some _ =>
        have moved : WellFormed
            (o.modifyMember session fun m => { m with group := id, role := .worker }) := by
          refine h.modifyMember (fun _ => rfl) (fun _ _ => there) (fun id' m _ leads => ?_)
          cases (Bool.and_eq_true_iff.1 leads).2
        cases role with
        | worker => exact moved
        | orchestrator => exact moved.promote id session

end WellFormed

end Organization

end Ensemble
