import Ensemble.Proofs.Organization.Reachable

/-!
# What reconciliation does

Reconciliation drops the members that are not running and then places the running sessions one by
one.  Placing a session changes the members only in what it makes of that session, and the groups
only by adding one at the end.  Hence a single pass over the placements carries the invariant
`Progress.Placed`: the sessions seen so far are where their placements want them, and what is known
of all other sessions is as it was.

The groups without members are dropped last.  A group that somebody was placed in is not among
them, and neither is the group of a member that was left alone.

`reconcile_outcome` says what becomes of every session and of every group.
-/

namespace Ensemble.Organization

/-! ## Looking a session up -/

section Member

variable {o : Organization} {session : String}

/-- Sessions that are members once are found if they are members. -/
theorem member?_eq_some_iff (once : (o.members.map (·.session)).Nodup) {m : Member} :
    o.member? session = some m ↔ m ∈ o.members ∧ m.session = session := by
  constructor
  · intro found
    have same : (m.session == session) = true :=
      List.find?_some (p := fun m : Member => m.session == session) found
    exact ⟨List.mem_of_find?_eq_some found, beq_iff_eq.1 same⟩
  · rintro ⟨mem, rfl⟩
    obtain ⟨m', found⟩ : ∃ m', o.member? m.session = some m' :=
      Option.isSome_iff_exists.1 (List.find?_isSome.2 ⟨m, mem, beq_self_eq_true _⟩)
    have same : m'.session = m.session :=
      beq_iff_eq.1 (List.find?_some (p := fun x : Member => x.session == m.session) found)
    rw [found, List.inj_on_of_nodup_map once (List.mem_of_find?_eq_some found) mem same]

/-- Changing the member that a session is changes what is found for that session only. -/
theorem member?_modifyMember {f : Member → Member} (same : ∀ m, (f m).session = m.session)
    (other : String) :
    (o.modifyMember session f).member? other =
      if other = session then (o.member? session).map f else o.member? other := by
  unfold modifyMember member?
  induction o.members with
  | nil => exact (ite_self _).symm
  | cons m rest ih =>
    rw [modifyFirst]
    by_cases here : m.session = session
    · rw [if_pos (beq_iff_eq.2 here), List.find?_cons, List.find?_cons, List.find?_cons, same, here,
        beq_self_eq_true]
      by_cases found : other = session
      · rw [if_pos found, found, beq_self_eq_true, Option.map_some]
      · rw [if_neg found, beq_eq_false_iff_ne.2 (Ne.symm found)]
    · rw [if_neg (mt beq_iff_eq.1 here), List.find?_cons, List.find?_cons, List.find?_cons, ih,
        beq_eq_false_iff_ne.2 here]
      by_cases found : other = session
      · rw [if_pos found, if_pos found, found, beq_eq_false_iff_ne.2 here]
      · rw [if_neg found, if_neg found]

/-- A session that joins is found, and nothing else changes. -/
theorem member?_concat (groups : List Group) {m : Member} (absent : o.member? m.session = none)
    (other : String) :
    (⟨groups, o.members ++ [m]⟩ : Organization).member? other =
      if other = m.session then some m else o.member? other := by
  rw [member?, List.find?_append, List.find?_cons]
  by_cases found : other = m.session
  · subst found
    rw [← member?, absent, if_pos rfl, Option.none_or, beq_self_eq_true]
  · rw [if_neg found, beq_eq_false_iff_ne.2 (Ne.symm found), List.find?_nil, Option.or_none,
      ← member?]

end Member

/-! ## Who is left alone -/

/-- Whether a member stays where it is: it has provenance, or sits in a group that is there and is a
multi-agent group or belongs to no repository. -/
def Settled (o : Organization) (m : Member) : Prop :=
  m.hasProvenance = true ∨
    ∃ g ∈ o.groups, g.id = m.group ∧ (g.isMultiAgent = true ∨ g.repository = none)

instance (o : Organization) (m : Member) : Decidable (o.Settled m) :=
  inferInstanceAs (Decidable (_ ∨ _))

/-- With identifiers of their own, groups are either for a repository or not. -/
theorem isSettled_iff {o : Organization} (ids : (o.groups.map (·.id)).Nodup) (m : Member) :
    isSettled o m = true ↔ o.Settled m := by
  rw [isSettled, Bool.or_eq_true, Bool.or_eq_true, Bool.and_eq_true, List.any_eq_true,
    List.any_eq_true, Bool.not_eq_true', List.any_eq_false, Settled, or_assoc]
  refine or_congr_right ⟨?_, ?_⟩
  · rintro (⟨g, mem, multi⟩ | ⟨⟨g, mem, here⟩, nobodys⟩)
    · obtain ⟨here, multi⟩ := Bool.and_eq_true_iff.1 multi
      exact ⟨g, mem, beq_iff_eq.1 here, .inl multi⟩
    · have none : ¬ g.repository.isSome = true := fun some =>
        nobodys g mem (Bool.and_eq_true_iff.2 ⟨here, some⟩)
      exact ⟨g, mem, beq_iff_eq.1 here, .inr (Option.not_isSome_iff_eq_none.1 none)⟩
  · rintro ⟨g, mem, here, multi | none⟩
    · exact .inl ⟨g, mem, Bool.and_eq_true_iff.2 ⟨beq_iff_eq.2 here, multi⟩⟩
    · refine .inr ⟨⟨g, mem, beq_iff_eq.2 here⟩, fun g' mem' both => ?_⟩
      -- No other group has the identifier.
      obtain ⟨here', some⟩ := Bool.and_eq_true_iff.1 both
      have same : g' = g :=
        List.inj_on_of_nodup_map ids mem' mem ((beq_iff_eq.1 here').trans here.symm)
      rw [same, none] at some
      cases some

/-- The group of a repository is no multi-agent group, and belongs to that repository. -/
theorem isGroupOf_iff {repository : String} {g : Group} :
    isGroupOf repository g = true ↔ g.isMultiAgent = false ∧ g.repository = some repository := by
  rw [isGroupOf, Bool.and_eq_true, Bool.not_eq_true', beq_iff_eq]

namespace Progress

variable {before : Organization} {fresh : Nat → Id} {now : Timestamp}
  {lookup : String → Option String} {placement : Placement} {p q : Progress}

/-! ## Placing one session -/

/-- The group of a repository is there afterwards; all groups before are, and a new one is only for
that repository. -/
theorem groupFor_groups (p : Progress) (fresh : Nat → Id) (now : Timestamp) (repository : String) :
    (∃ added, (p.groupFor fresh now repository).2.organization.groups =
        p.organization.groups ++ added ∧ ∀ g ∈ added, isGroupOf repository g = true) ∧
      ∃ g ∈ (p.groupFor fresh now repository).2.organization.groups,
        g.id = (p.groupFor fresh now repository).1 ∧ isGroupOf repository g = true := by
  cases found : p.organization.groups.find? (isGroupOf repository) with
  | some g =>
    simp only [groupFor, found]
    exact ⟨⟨[], (List.append_nil _).symm, fun _ mem => absurd mem List.not_mem_nil⟩,
      g, List.mem_of_find?_eq_some found, rfl, List.find?_some found⟩
  | none =>
    simp only [groupFor, found]
    have own : isGroupOf repository
        { Group.create (fresh p.created) (repositoryName repository) .broadcast false now with
          repository := some repository } = true :=
      beq_self_eq_true (some repository)
    refine ⟨⟨_, rfl, fun g mem => ?_⟩, _, List.mem_append_right _ List.mem_cons_self, rfl, own⟩
    rw [List.mem_singleton.1 mem]
    exact own

/-- What a placement makes of its session: nothing if the session is settled or belongs to no
repository, and else a member of a group of its repository, which is otherwise what it was. -/
inductive Outcome (before : Organization) (lookup : String → Option String)
    (placement : Placement) (groups : List Group) : Option Member → Prop
  | settled {m : Member} (found : before.member? placement.session = some m)
      (settled : isSettled before m = true) : Outcome before lookup placement groups (some m)
  | homeless (nowhere : placement.worktree.bind lookup = none) :
      Outcome before lookup placement groups (before.member? placement.session)
  | placed {repository : String} (home : placement.worktree.bind lookup = some repository)
      (loose : ∀ m, before.member? placement.session = some m → isSettled before m = false)
      {g : Group} (there : g ∈ groups) (own : isGroupOf repository g = true) :
      Outcome before lookup placement groups
        (some { (before.member? placement.session).getD (.create placement.session g.id) with
          group := g.id })

/-- More groups do not change what a placement has made of its session. -/
theorem Outcome.mono {groups groups' : List Group} {m? : Option Member}
    (h : Outcome before lookup placement groups m?) (kept : groups ⊆ groups') :
    Outcome before lookup placement groups' m? := by
  cases h with
  | settled found settled => exact .settled found settled
  | homeless nowhere => exact .homeless nowhere
  | placed home loose there own => exact .placed home loose (kept there) own

namespace Outcome

variable {groups : List Group} {m? : Option Member}

/-- A settled member is left alone. -/
theorem of_settled (h : Outcome before lookup placement groups m?) {m : Member}
    (found : before.member? placement.session = some m) (settled : isSettled before m = true) :
    m? = some m := by
  cases h with
  | settled found' => exact found'.symm.trans found
  | homeless => exact found
  | placed _ loose =>
    rw [loose m found] at settled
    cases settled

/-- A session without a repository is left where it is. -/
theorem of_homeless (h : Outcome before lookup placement groups m?)
    (nowhere : placement.worktree.bind lookup = none) :
    m? = before.member? placement.session := by
  cases h with
  | settled found => exact found.symm
  | homeless => rfl
  | placed home => cases nowhere.symm.trans home

/-- A loose session with a repository is put into the group of that, and keeps the rest of what it
was. -/
theorem of_home (h : Outcome before lookup placement groups m?) {repository : String}
    (home : placement.worktree.bind lookup = some repository)
    (loose : ∀ m, before.member? placement.session = some m → ¬ isSettled before m = true) :
    ∃ g ∈ groups, isGroupOf repository g = true ∧
      m? = some { (before.member? placement.session).getD
        (.create placement.session g.id) with group := g.id } := by
  cases h with
  | settled found settled => exact absurd settled (loose _ found)
  | homeless nowhere => cases nowhere.symm.trans home
  | placed home' _ there own =>
    cases home'.symm.trans home
    exact ⟨_, there, own, rfl⟩

end Outcome

/-- What placing a session comes to, seen from outside. -/
structure Placed (before : Organization) (lookup : String → Option String)
    (placement : Placement) (p q : Progress) : Prop where
  groups : ∃ added, q.organization.groups = p.organization.groups ++ added ∧
    ∀ g ∈ added, ∃ repository, placement.worktree.bind lookup = some repository ∧
      isGroupOf repository g = true
  others : ∀ session, session ≠ placement.session →
    q.organization.member? session = p.organization.member? session
  once : (p.organization.members.map (·.session)).Nodup →
    (q.organization.members.map (·.session)).Nodup
  outcome : p.organization.member? placement.session = before.member? placement.session →
    Outcome before lookup placement q.organization.groups
      (q.organization.member? placement.session)

/-- Finding the group of a repository moves nobody. -/
theorem groupFor_member? (repository session : String) :
    (p.groupFor fresh now repository).2.organization.member? session =
      p.organization.member? session := by
  rw [member?, groupFor_members, ← member?]

/-- A session that is not settled and has a repository is in a group of that repository, whichever
way it gets there. -/
theorem Placed.of_home {repository : String}
    (home : placement.worktree.bind lookup = some repository)
    (loose : ∀ m, p.organization.member? placement.session = some m → isSettled before m = false)
    (groups : q.organization.groups = (p.groupFor fresh now repository).2.organization.groups)
    (members : ∀ session, q.organization.member? session =
      if session = placement.session then
        some { (p.organization.member? placement.session).getD
            (.create placement.session (p.groupFor fresh now repository).1) with
          group := (p.groupFor fresh now repository).1 }
      else p.organization.member? session)
    (once : (p.organization.members.map (·.session)).Nodup →
      (q.organization.members.map (·.session)).Nodup) :
    Placed before lookup placement p q := by
  -- the group that was found or added is the group of the repository
  obtain ⟨⟨added, grown, own⟩, g, there, here, isOwn⟩ :=
    groupFor_groups p fresh now repository
  refine ⟨⟨added, groups.trans grown, fun g mem => ⟨repository, home, own g mem⟩⟩,
    fun session other => ?_, once, fun same => ?_⟩
  · rw [members, if_neg other]
  · rw [← groups] at there
    rw [same] at loose
    rw [members, if_pos rfl, same, ← here]
    exact .placed home loose there isOwn

/-- Placing a session places it as its placement wants, and nobody else. -/
theorem Placing.placed (placing : Placing before fresh now lookup placement p q) :
    Placed before lookup placement p q := by
  cases placing with
  | settled found settled =>
    refine ⟨⟨[], (List.append_nil _).symm, fun _ mem => absurd mem List.not_mem_nil⟩,
      fun _ _ => rfl, id, fun same => ?_⟩
    rw [found]
    exact .settled (same ▸ found) settled
  | homeless nowhere =>
    refine ⟨⟨[], (List.append_nil _).symm, fun _ mem => absurd mem List.not_mem_nil⟩,
      fun _ _ => rfl, id, fun same => ?_⟩
    rw [same]
    exact .homeless nowhere
  -- the session is in the group already, so that putting it there changes nothing
  | @there repository home m found loose inside =>
    refine .of_home home (by rintro _ found'; cases found.symm.trans found'; exact loose) rfl
      (fun session => ?_) (fun once => ?_)
    · rw [groupFor_member?, found, Option.getD_some, ← inside]
      split
      next is => rw [is, found]
      next => rfl
    · rwa [groupFor_members]
  | @moved repository home m found loose outside =>
    have kept : ∀ m : Member, ({ m with
        group := (p.groupFor fresh now repository).1 } : Member).session = m.session :=
      fun _ => rfl
    refine .of_home home (by rintro _ found'; cases found.symm.trans found'; exact loose) rfl
      (fun session => (member?_modifyMember kept session).trans ?_) (fun once => ?_)
    · rw [groupFor_member?, groupFor_member?, found, Option.map_some, Option.getD_some]
    · rw [modifyMember, map_modifyFirst kept, groupFor_members]
      exact once
  | @joined repository home absent =>
    have absent' : (p.groupFor fresh now repository).2.organization.member? placement.session =
        none := (groupFor_member? _ _).trans absent
    refine .of_home home (by rintro _ found; cases absent.symm.trans found) rfl
      (fun session => (member?_concat _ absent' session).trans ?_) (fun once => ?_)
    · rw [groupFor_member?, absent, Option.getD_none]
      rfl
    · rw [groupFor_members, List.map_append, List.map_singleton, ← List.concat_eq_append]
      refine once.concat fun mem => ?_
      obtain ⟨m, mem, is⟩ := List.mem_map.1 mem
      exact List.find?_eq_none.1 absent m mem (beq_iff_eq.2 is)

/-! ## Placing all sessions -/

/-- The sessions seen so far are where their placements want them, the others where they were. -/
structure AllPlaced (before : Organization) (lookup : String → Option String)
    (seen : List Placement) (p : Progress) : Prop where
  groups : ∃ added, p.organization.groups = before.groups ++ added ∧
    ∀ g ∈ added, ∃ placement ∈ seen, ∃ repository,
      placement.worktree.bind lookup = some repository ∧ isGroupOf repository g = true
  others : ∀ session, session ∉ seen.map (·.session) →
    p.organization.member? session = before.member? session
  once : (p.organization.members.map (·.session)).Nodup
  outcome : ∀ placement ∈ seen, Outcome before lookup placement p.organization.groups
    (p.organization.member? placement.session)

variable {seen : List Placement}

/-- With one more session placed, all that were seen are placed. -/
theorem AllPlaced.concat (h : AllPlaced before lookup seen p)
    (new : placement.session ∉ seen.map (·.session)) (placed : Placed before lookup placement p q) :
    AllPlaced before lookup (seen ++ [placement]) q := by
  obtain ⟨added, grown, own⟩ := h.groups
  obtain ⟨more, grown', own'⟩ := placed.groups
  refine ⟨⟨added ++ more, ?_, fun g mem => ?_⟩, fun session unseen => ?_, placed.once h.once,
    fun other mem => ?_⟩
  · rw [grown', grown, List.append_assoc]
  · rcases List.mem_append.1 mem with old | new
    · obtain ⟨other, mem, is⟩ := own g old
      exact ⟨other, List.mem_append_left _ mem, is⟩
    · exact ⟨placement, List.mem_append_right _ List.mem_cons_self, own' g new⟩
  · rw [List.map_append, List.mem_append, not_or, List.map_singleton, List.mem_singleton] at unseen
    rw [placed.others session unseen.2, h.others session unseen.1]
  · rcases List.mem_append.1 mem with old | new'
    · -- The session was seen before, so it is not the one that is placed now.
      have unlike : other.session ≠ placement.session := fun same =>
        new (same ▸ List.mem_map_of_mem old)
      rw [placed.others _ unlike, grown']
      exact (h.outcome other old).mono (List.subset_append_left _ _)
    · rw [List.mem_singleton.1 new']
      exact placed.outcome (h.others _ new)

/-- Placing sessions that are named once each sees to all of them. -/
theorem AllPlaced.foldl (placements : List Placement)
    (named : ((seen ++ placements).map (·.session)).Nodup) (h : AllPlaced before lookup seen p) :
    AllPlaced before lookup (seen ++ placements)
      (placements.foldl (place before fresh now lookup) p) := by
  induction placements generalizing seen p with
  | nil =>
    rw [List.append_nil]
    exact h
  | cons placement rest ih =>
    -- no session is placed twice, so that it is still as it was before placement
    have new : placement.session ∉ seen.map (·.session) := fun old => by
      rw [List.map_append, List.nodup_append] at named
      exact named.2.2 _ old _ List.mem_cons_self rfl
    have placed := (place_placing before fresh now lookup placement p).placed
    rw [List.append_cons] at named ⊢
    exact ih named (h.concat new placed)

end Progress

/-! ## The outcome -/

section Outcome

variable {o : Organization} {fresh : Nat → Id} {now : Timestamp} {placements : List Placement}
  {lookup : String → Option String}

/-- An organization without the members that are not running. -/
def running (o : Organization) (placements : List Placement) : Organization :=
  { o with members := o.members.filter fun m => placements.any fun p => p.session == m.session }

/-- A running session is the member that it was. -/
theorem running_member? (once : (o.members.map (·.session)).Nodup) {p : Placement}
    (mem : p ∈ placements) : (o.running placements).member? p.session = o.member? p.session := by
  have once' : ((o.running placements).members.map (·.session)).Nodup :=
    (List.filter_sublist.map _).nodup once
  ext m
  rw [member?_eq_some_iff once', member?_eq_some_iff once, running, List.mem_filter, and_assoc]
  refine and_congr_right fun _ => ⟨And.right, fun same => ⟨?_, same⟩⟩
  exact List.any_eq_true.2 ⟨p, mem, beq_iff_eq.2 same.symm⟩

/-- Who is not running is no member. -/
theorem running_member?_of_not_mem {session : String}
    (gone : session ∉ placements.map (·.session)) :
    (o.running placements).member? session = none := by
  refine List.find?_eq_none.2 fun m mem same => gone ?_
  obtain ⟨p, running, named⟩ := List.any_eq_true.1 (List.mem_filter.1 mem).2
  rw [← beq_iff_eq.1 same, ← beq_iff_eq.1 named]
  exact List.mem_map_of_mem running

/-- What placements make of running sessions does not depend on those that are not running. -/
theorem outcome_of_running (once : (o.members.map (·.session)).Nodup) {p : Placement}
    (mem : p ∈ placements) {groups : List Group} {m? : Option Member}
    (h : Progress.Outcome (o.running placements) lookup p groups m?) :
    Progress.Outcome o lookup p groups m? := by
  have same := running_member? once mem
  cases h with
  | settled found settled => exact .settled (same ▸ found) settled
  | homeless nowhere => exact same ▸ .homeless nowhere
  | placed home loose there own =>
    rw [same] at loose ⊢
    exact .placed home loose there own

variable (fresh now lookup) in
/-- After the pass over the placements all of them are placed. -/
theorem placed_allPlaced (once : (o.members.map (·.session)).Nodup)
    (named : (placements.map (·.session)).Nodup) :
    Progress.AllPlaced (o.running placements) lookup placements
      (o.placed fresh now placements lookup) := by
  have start : ∀ removed, Progress.AllPlaced (o.running placements) lookup []
      ⟨o.running placements, 0, removed⟩ := fun removed =>
    { groups := ⟨[], (List.append_nil _).symm, fun _ mem => absurd mem List.not_mem_nil⟩
      others := fun _ _ => rfl
      once := (List.filter_sublist.map _).nodup once
      outcome := fun _ mem => absurd mem List.not_mem_nil }
  rw [← List.nil_append placements] at named
  exact Progress.AllPlaced.foldl placements named (start _)

/-- What reconciliation leaves of the groups after placement: those that are not repository groups
without members. -/
theorem reconcile_groups :
    let after := (o.reconcile fresh now placements lookup).2
    after.groups = (o.placed fresh now placements lookup).organization.groups.filter fun g =>
      g.isMultiAgent || g.repository.isNone || after.members.any fun m => m.group == g.id := by
  intro after
  have members : after.members = (o.placed fresh now placements lookup).organization.members := rfl
  have groups : after.groups = (o.placed fresh now placements lookup).organization.groups.filter
      fun g => !isAbandoned (o.placed fresh now placements lookup).organization g := rfl
  rw [groups, members]
  refine List.filter_congr fun g _ => ?_
  rw [isAbandoned, Bool.not_and, Bool.not_and, Bool.not_not, Bool.not_not, Option.not_isSome,
    Bool.or_comm g.repository.isNone]

/-- A group that has a member is not dropped. -/
theorem mem_reconcile_groups {g : Group} {m : Member}
    (there : g ∈ (o.placed fresh now placements lookup).organization.groups)
    (mem : m ∈ (o.reconcile fresh now placements lookup).2.members) (here : m.group = g.id) :
    g ∈ (o.reconcile fresh now placements lookup).2.groups := by
  rw [reconcile_groups]
  refine List.mem_filter.2 ⟨there, Bool.or_eq_true_iff.2 (.inr ?_)⟩
  exact List.any_eq_true.2 ⟨m, mem, beq_iff_eq.2 here⟩

variable (fresh now lookup) in
/-- What a running session is afterwards is what its placement makes of it. -/
theorem reconcile_member? (once : (o.members.map (·.session)).Nodup)
    (named : (placements.map (·.session)).Nodup) {p : Placement} (running : p ∈ placements) :
    Progress.Outcome o lookup p (o.placed fresh now placements lookup).organization.groups
      ((o.reconcile fresh now placements lookup).2.member? p.session) :=
  outcome_of_running once running ((placed_allPlaced fresh now lookup once named).outcome p running)

variable (fresh now lookup) in
/-- Sessions are members once afterwards. -/
theorem reconcile_nodup (once : (o.members.map (·.session)).Nodup)
    (named : (placements.map (·.session)).Nodup) :
    ((o.reconcile fresh now placements lookup).2.members.map (·.session)).Nodup :=
  (placed_allPlaced fresh now lookup once named).once

/-- A running member that is settled stays as it is, and its group stays with it. -/
theorem settled_stays (once : (o.members.map (·.session)).Nodup)
    (ids : (o.groups.map (·.id)).Nodup) (named : (placements.map (·.session)).Nodup) {m : Member}
    (mem : m ∈ o.members) {p : Placement} (running : p ∈ placements)
    (same : p.session = m.session) (settled : o.Settled m) :
    m ∈ (o.reconcile fresh now placements lookup).2.members ∧
      ∀ g ∈ o.groups, g.id = m.group → g ∈ (o.reconcile fresh now placements lookup).2.groups := by
  have found : o.member? p.session = some m := (member?_eq_some_iff once).2 ⟨mem, same.symm⟩
  have stays := (reconcile_member? fresh now lookup once named running).of_settled found
    ((isSettled_iff ids m).2 settled)
  have mem' := ((member?_eq_some_iff (reconcile_nodup fresh now lookup once named)).1 stays).1
  obtain ⟨added, grown, -⟩ := (placed_allPlaced fresh now lookup once named).groups
  refine ⟨mem', fun g there here => mem_reconcile_groups ?_ mem' here.symm⟩
  rw [grown]
  exact List.mem_append_left _ there

/-- A running session of a repository that is not settled is in a group of that repository. -/
theorem loose_moves (once : (o.members.map (·.session)).Nodup)
    (ids : (o.groups.map (·.id)).Nodup) (named : (placements.map (·.session)).Nodup)
    {p : Placement} (running : p ∈ placements) {repository : String}
    (home : p.worktree.bind lookup = some repository)
    (loose : ∀ m ∈ o.members, m.session = p.session → ¬ o.Settled m) :
    ∃ g ∈ (o.reconcile fresh now placements lookup).2.groups,
      g.isMultiAgent = false ∧ g.repository = some repository ∧
        { (o.member? p.session).getD (.create p.session g.id) with group := g.id }
          ∈ (o.reconcile fresh now placements lookup).2.members := by
  have loose' : ∀ m, o.member? p.session = some m → ¬ isSettled o m = true := by
    intro m found settled
    obtain ⟨mem, same⟩ := (member?_eq_some_iff once).1 found
    exact loose m mem same ((isSettled_iff ids m).1 settled)
  -- after placement the session is in the group, which is not abandoned for that
  obtain ⟨g, there, isOwn, placed⟩ :=
    (reconcile_member? fresh now lookup once named running).of_home home loose'
  obtain ⟨single, here⟩ := isGroupOf_iff.1 isOwn
  have mem := ((member?_eq_some_iff (reconcile_nodup fresh now lookup once named)).1 placed).1
  exact ⟨g, mem_reconcile_groups there mem rfl, single, here, mem⟩

/-- A running member that has no repository stays as it is. -/
theorem homeless_stays (once : (o.members.map (·.session)).Nodup)
    (named : (placements.map (·.session)).Nodup) {m : Member} (mem : m ∈ o.members)
    {p : Placement} (running : p ∈ placements) (same : p.session = m.session)
    (nowhere : p.worktree.bind lookup = none) :
    m ∈ (o.reconcile fresh now placements lookup).2.members := by
  have stays := (reconcile_member? fresh now lookup once named running).of_homeless nowhere
  rw [(member?_eq_some_iff once).2 ⟨mem, same.symm⟩] at stays
  exact ((member?_eq_some_iff (reconcile_nodup fresh now lookup once named)).1 stays).1

/-- Afterwards every member is running, and whoever joined has a repository. -/
theorem running_of_mem (once : (o.members.map (·.session)).Nodup)
    (named : (placements.map (·.session)).Nodup) {m : Member}
    (mem : m ∈ (o.reconcile fresh now placements lookup).2.members) :
    ∃ p ∈ placements, p.session = m.session ∧
      (o.member? m.session = none → (p.worktree.bind lookup).isSome) := by
  have found := (member?_eq_some_iff (reconcile_nodup fresh now lookup once named)).2 ⟨mem, rfl⟩
  by_cases running : m.session ∈ placements.map (·.session)
  · obtain ⟨p, running, same⟩ := List.mem_map.1 running
    refine ⟨p, running, same, fun new => Option.isSome_iff_ne_none.2 fun nowhere => ?_⟩
    have stays := (reconcile_member? fresh now lookup once named running).of_homeless nowhere
    rw [same, new, found] at stays
    cases stays
  · have gone := ((placed_allPlaced fresh now lookup once named).others _ running).trans
      (running_member?_of_not_mem running)
    cases gone.symm.trans found

/-- The groups that were added are groups of the repositories of placements. -/
theorem reconcile_added (once : (o.members.map (·.session)).Nodup)
    (named : (placements.map (·.session)).Nodup) :
    let after := (o.reconcile fresh now placements lookup).2
    ∃ added, after.groups = (o.groups.filter fun g =>
        g.isMultiAgent || g.repository.isNone || after.members.any fun m => m.group == g.id) ++
          added ∧
      ∀ g ∈ added, g.isMultiAgent = false ∧
        ∃ p ∈ placements, (p.worktree.bind lookup).isSome ∧
          g.repository = p.worktree.bind lookup := by
  intro after
  obtain ⟨added, grown, own⟩ := (placed_allPlaced fresh now lookup once named).groups
  have left : after.groups = _ := reconcile_groups
  rw [grown, List.filter_append] at left
  refine ⟨_, left, fun g mem => ?_⟩
  -- a group is added only for the repository of somebody who is placed
  obtain ⟨p, running, repository, home, isOwn⟩ := own g (List.mem_filter.1 mem).1
  obtain ⟨single, here⟩ := isGroupOf_iff.1 isOwn
  refine ⟨single, p, running, ?_, here.trans home.symm⟩
  rw [home, Option.isSome_some]

/--
What becomes of an organization whose sessions are members once, for placements that name each
session once.  Running members that are settled stay as they are, and their groups with them.  Any
other running session of a repository is a member of a group of that repository and otherwise what
it was before.  The other running members stay as they are, those not running are gone, and nobody
else joins.  Groups are dropped only if they belong to a repository, are no multi-agent groups and
have no members left; all others stay in order, before those that were added.
-/
theorem reconcile_outcome (once : (o.members.map (·.session)).Nodup)
    (unused : o.DrawsFresh (.reconcile fresh now placements lookup))
    (named : (placements.map (·.session)).Nodup) :
    let after := (o.reconcile fresh now placements lookup).2
    (∀ m ∈ o.members, ∀ p ∈ placements, p.session = m.session → o.Settled m →
      m ∈ after.members ∧ ∀ g ∈ o.groups, g.id = m.group → g ∈ after.groups) ∧
    (∀ p ∈ placements, ∀ repository, p.worktree.bind lookup = some repository →
      (∀ m ∈ o.members, m.session = p.session → ¬ o.Settled m) →
      ∃ g ∈ after.groups, g.isMultiAgent = false ∧ g.repository = some repository ∧
        { (o.member? p.session).getD (.create p.session g.id) with group := g.id }
          ∈ after.members) ∧
    (∀ m ∈ o.members, ∀ p ∈ placements, p.session = m.session → ¬ o.Settled m →
      p.worktree.bind lookup = none → m ∈ after.members) ∧
    (after.members.map (·.session)).Nodup ∧
    (∀ m ∈ after.members, ∃ p ∈ placements, p.session = m.session ∧
      (o.member? m.session = none → (p.worktree.bind lookup).isSome)) ∧
    ∃ added, after.groups = (o.groups.filter fun g =>
        g.isMultiAgent || g.repository.isNone || after.members.any fun m => m.group == g.id) ++
          added ∧
      ∀ g ∈ added, g.isMultiAgent = false ∧
        ∃ p ∈ placements, (p.worktree.bind lookup).isSome ∧
          g.repository = p.worktree.bind lookup := by
  have ids : (o.groups.map (·.id)).Nodup := (List.nodup_append.1 unused).1
  refine ⟨fun m mem p running same settled => settled_stays once ids named mem running same settled,
    fun p running repository home loose => loose_moves once ids named running home loose,
    fun m mem p running same _ nowhere => homeless_stays once named mem running same nowhere,
    reconcile_nodup fresh now lookup once named, fun m mem => running_of_mem once named mem,
    reconcile_added once named⟩

/-- A team and a group of notes are left alone, a member moves with its persona and empties its
group, a session joins, and a member that is in no group stays so. -/
theorem reconcile_moves_and_keeps :
    let now : Timestamp := ⟨0, 0⟩
    let team : Group := .create ⟨1⟩ "team" .orchestrator true now
    let notes : Group := .create ⟨2⟩ "notes" .broadcast false now
    let old : Group :=
      { Group.create ⟨3⟩ "old" .broadcast false now with repository := some "/old" }
    let lead : Member := ⟨"lead", ⟨1⟩, .orchestrator, none, none⟩
    let writer : Member := ⟨"writer", ⟨2⟩, .worker, none, none⟩
    let mover : Member := ⟨"mover", ⟨3⟩, .worker, none, some "terse"⟩
    let stray : Member := ⟨"stray", ⟨9⟩, .worker, none, none⟩
    let o : Organization := ⟨[team, notes, old], [lead, writer, .create "gone" ⟨3⟩, mover, stray]⟩
    let placements : List Placement := [⟨"lead", some "w"⟩, ⟨"writer", some "w"⟩,
      ⟨"mover", some "w"⟩, ⟨"stray", none⟩, ⟨"newcomer", some "w"⟩]
    let fresh (i : Nat) : Id := ⟨BitVec.ofNat 128 (20 + i)⟩
    let after := (o.reconcile fresh now placements fun _ => some "/new").2
    (o.members.map (·.session)).Nodup ∧
      o.DrawsFresh (.reconcile fresh now placements fun _ => some "/new") ∧
      (placements.map (·.session)).Nodup ∧
      (o.Settled lead ∧ lead ∈ after.members ∧ team ∈ after.groups) ∧
      (o.Settled writer ∧ writer ∈ after.members ∧ notes ∈ after.groups) ∧
      (∃ g ∈ after.groups, g.repository = some "/new" ∧
        { mover with group := g.id } ∈ after.members) ∧
      stray ∈ after.members ∧
      after.members.map (·.session) = ["lead", "writer", "mover", "stray", "newcomer"] ∧
      after.groups.map (·.id) = [⟨1⟩, ⟨2⟩, ⟨20⟩] := by
  intro now team notes old lead writer mover stray o placements fresh after
  have once : (o.members.map (·.session)).Nodup := by decide
  have unused : o.DrawsFresh (.reconcile fresh now placements fun _ => some "/new") := by decide
  have named : (placements.map (·.session)).Nodup := by decide
  have leads : o.Settled lead := by decide
  have writes : o.Settled writer := by decide
  obtain ⟨stays, moves, strays, -⟩ := reconcile_outcome once unused named
  have led := stays lead (by decide) ⟨"lead", some "w"⟩ (by decide) rfl leads
  have written := stays writer (by decide) ⟨"writer", some "w"⟩ (by decide) rfl writes
  obtain ⟨g, there, -, here, moved⟩ :=
    moves ⟨"mover", some "w"⟩ (by decide) "/new" rfl (by decide)
  have strayed := strays stray (by decide) ⟨"stray", none⟩ (by decide) rfl (by decide) rfl
  exact ⟨once, unused, named, ⟨leads, led.1, led.2 team (by decide) rfl⟩,
    ⟨writes, written.1, written.2 notes (by decide) rfl⟩, ⟨g, there, here, moved⟩, strayed,
    by decide, by decide⟩

end Outcome

end Ensemble.Organization
