import Ensemble.Proofs.Organization.Reconciliation

/-!
# Reconciliation comes to rest

A placement is at home if it has nothing left to do: its session is settled, or belongs to no
repository, or is in the *first* group of its repository (`AtHome`).  Where all placements are at
home, everybody is running and no group is abandoned, reconciliation does nothing
(`reconcile_eq_self`).

One reconciliation brings an organization there.  A placement is at home as soon as it has been
carried out, and it stays so: later placements change other sessions and add groups at the end, so
that the first group of a repository stays the first, and the groups that are dropped in the end
have no members.  Of the groups of one repository, the one that the placement found is therefore
the one that the next reconciliation finds, also if the first one emptied and dropped others.

Since every change is reported, no report means no change (`Progress.Placing.eq_or_reports`), and
the converse is the statement about the second reconciliation.
-/

namespace Ensemble.Organization

variable {fresh : Nat → Id} {now : Timestamp} {placements : List Placement}
  {lookup : String → Option String}

/-! ## Placements at home -/

/-- A placement that has nothing left to do in an organization.  Who is settled is judged by the
organization `before` placement. -/
inductive AtHome (before : Organization) (lookup : String → Option String) (placement : Placement)
    (o : Organization) : Prop
  | settled {m : Member} (found : o.member? placement.session = some m)
      (settled : isSettled before m = true) : AtHome before lookup placement o
  | homeless (nowhere : placement.worktree.bind lookup = none) : AtHome before lookup placement o
  /-- The session is in the first group of its repository. -/
  | inside {repository : String} (home : placement.worktree.bind lookup = some repository)
      {g : Group} (first : o.groups.find? (isGroupOf repository) = some g)
      {m : Member} (found : o.member? placement.session = some m) (here : m.group = g.id) :
      AtHome before lookup placement o

namespace AtHome

variable {before : Organization} {placement : Placement} {o o' : Organization}

/-- A session at home that has a repository is settled, or it is in the group that it would be put
into, and none has to be created. -/
theorem settled_or_groupFor_eq {p : Progress} (h : AtHome before lookup placement p.organization)
    {repository : String} (home : placement.worktree.bind lookup = some repository)
    (fresh : Nat → Id) (now : Timestamp) :
    ∃ m, p.organization.member? placement.session = some m ∧
      (isSettled before m = true ∨ p.groupFor fresh now repository = (m.group, p)) := by
  cases h with
  | @settled m found settled => exact ⟨m, found, .inl settled⟩
  | homeless nowhere => cases nowhere.symm.trans home
  | @inside repository' home' g first m found here =>
    obtain rfl : repository' = repository := Option.some.inj (home'.symm.trans home)
    refine ⟨m, found, .inr ?_⟩
    simp only [Progress.groupFor, first, here]

/-- A placement that is at home is not carried out. -/
theorem place_eq {p : Progress} (h : AtHome before lookup placement p.organization)
    (fresh : Nat → Id) (now : Timestamp) : p.place before fresh now lookup placement = p := by
  have placing := Progress.place_placing before fresh now lookup placement p
  -- whoever is at home is settled or homeless, or finds its own group
  generalize p.place before fresh now lookup placement = q at placing
  cases placing with
  | settled | homeless => rfl
  | @there repository home m found loose inside =>
    obtain ⟨m', found', settled | there⟩ := h.settled_or_groupFor_eq home fresh now
    · cases found.symm.trans found'
      cases loose.symm.trans settled
    · rw [there]
  | @moved repository home m found loose outside =>
    obtain ⟨m', found', settled | there⟩ := h.settled_or_groupFor_eq home fresh now
    · cases found.symm.trans found'
      cases loose.symm.trans settled
    · cases found.symm.trans found'
      rw [there] at outside
      exact absurd rfl outside
  | @joined repository home absent =>
    obtain ⟨m, found, -⟩ := h.settled_or_groupFor_eq home fresh now
    cases absent.symm.trans found

/-- A placement stays at home while its session is left alone and groups are added at the end. -/
theorem mono (h : AtHome before lookup placement o)
    (same : o'.member? placement.session = o.member? placement.session)
    {added : List Group} (grown : o'.groups = o.groups ++ added) :
    AtHome before lookup placement o' := by
  cases h with
  | settled found settled => exact .settled (same.trans found) settled
  | homeless nowhere => exact .homeless nowhere
  | inside home first found here =>
    refine .inside home ?_ (same.trans found) here
    rw [grown, List.find?_append, first, Option.some_or]

/-- A placement stays at home when the groups without members are dropped. -/
theorem dropAbandoned (h : AtHome before lookup placement o) :
    AtHome before lookup placement
      { o with groups := o.groups.filter fun g => !isAbandoned o g } := by
  cases h with
  | settled found settled => exact .settled found settled
  | homeless nowhere => exact .homeless nowhere
  | @inside repository home g first m found here =>
    refine .inside home ?_ found here
    have occupied : (o.members.any fun m => m.group == g.id) = true := by
      apply List.any_eq_true.2
      exact ⟨m, List.mem_of_find?_eq_some found, beq_iff_eq.2 here⟩
    have kept : isAbandoned o g = false := by
      rw [isAbandoned, occupied, Bool.not_true, Bool.and_false]
    -- no group before `g` belongs to the repository, whether it is dropped or not
    obtain ⟨own, earlier, later, split, others⟩ := List.find?_eq_some_iff_append.1 first
    rw [List.find?_filter, List.find?_eq_some_iff_append]
    refine ⟨by rw [kept, own]; rfl, earlier, later, split, ?_⟩
    intro g' mem
    have foreign : isGroupOf repository g' = false := by
      rw [← Bool.not_eq_true', others g' mem]
    simp only [foreign, Bool.false_eq_true, and_false, decide_false, Bool.not_false]

/-- Who was settled before is all that the judging organization matters for. -/
theorem rejudge {before' : Organization} (h : AtHome before lookup placement o)
    (settled : ∀ m, isSettled before m = true → isSettled before' m = true) :
    AtHome before' lookup placement o := by
  cases h with
  | settled found was => exact .settled found (settled _ was)
  | homeless nowhere => exact .homeless nowhere
  | inside home first found here => exact .inside home first found here

end AtHome

/-! ## Organizations at rest -/

/-- Where all placements are at home, placing changes nothing. -/
theorem foldl_place_eq {before : Organization} {p : Progress}
    (homes : ∀ placement ∈ placements, AtHome before lookup placement p.organization) :
    placements.foldl (Progress.place before fresh now lookup) p = p := by
  induction placements with
  | nil => rfl
  | cons placement rest ih =>
    rw [List.foldl_cons, (homes placement List.mem_cons_self).place_eq]
    apply ih
    intro other mem
    exact homes other (List.mem_cons_of_mem _ mem)

section Reconcile

variable {o : Organization}

/-- What reconciliation reports: placement and the groups that were abandoned. -/
theorem reconcile_fst (o : Organization) (fresh : Nat → Id) (now : Timestamp)
    (placements : List Placement) (lookup : String → Option String) :
    (o.reconcile fresh now placements lookup).1 =
      let placed := o.placed fresh now placements lookup
      placed.changes ++ (placed.organization.groups.filter (isAbandoned placed.organization)).map
        fun g => .groupRemoved g.name :=
  rfl

/-- What reconciliation starts placing from: those who are not running are dropped, and this is all
that has been reported. -/
def start (o : Organization) (placements : List Placement) : Progress where
  organization := o.running placements
  created := 0
  changes := (o.members.filter fun m => !(placements.any fun p => p.session == m.session)).map
    fun m => .memberRemoved m.session

/-- Placement goes on from the members that are running. -/
theorem placed_eq (o : Organization) (fresh : Nat → Id) (now : Timestamp)
    (placements : List Placement) (lookup : String → Option String) :
    o.placed fresh now placements lookup =
      placements.foldl (Progress.place (o.running placements) fresh now lookup)
        (o.start placements) :=
  rfl

/-- If no member is reported to be dropped, nobody is. -/
theorem running_eq_self (kept : (o.start placements).changes = []) :
    o.running placements = o := by
  have running : ∀ m ∈ o.members, (placements.any fun p => p.session == m.session) = true := by
    intro m mem
    have live := List.filter_eq_nil_iff.1 (List.map_eq_nil_iff.1 kept) m mem
    rwa [Bool.not_eq_true', Bool.not_eq_false] at live
  rw [Organization.running, List.filter_eq_self.2 running]

/-- Where everybody is running and all placements are at home, and no group is abandoned,
reconciliation does nothing. -/
theorem reconcile_eq_self
    (running : ∀ m ∈ o.members, (placements.any fun p => p.session == m.session) = true)
    (homes : ∀ placement ∈ placements, AtHome o lookup placement o)
    (occupied : ∀ g ∈ o.groups, isAbandoned o g = false) :
    o.reconcile fresh now placements lookup = ([], o) := by
  have kept : (o.start placements).changes = [] := by
    apply List.map_eq_nil_iff.2
    apply List.filter_eq_nil_iff.2
    intro m mem
    rw [running m mem, Bool.not_true]
    exact Bool.false_ne_true
  -- everybody is at home, so that the pass changes nothing
  have still : o.placed fresh now placements lookup = ⟨o, 0, []⟩ := by
    have begun : o.start placements = ⟨o, 0, []⟩ := by
      rw [← kept]
      exact congrArg (Progress.mk · 0 _) (running_eq_self kept)
    rw [placed_eq, running_eq_self kept, begun]
    exact foldl_place_eq homes
  have none : o.groups.filter (isAbandoned o) = [] := by
    apply List.filter_eq_nil_iff.2
    intro g mem
    rw [occupied g mem]
    exact Bool.false_ne_true
  have all : (o.groups.filter fun g => !isAbandoned o g) = o.groups := by
    apply List.filter_eq_self.2
    intro g mem
    rw [occupied g mem, Bool.not_false]
  apply Prod.ext
  · rw [reconcile_fst, still]
    simp only [none, List.map_nil, List.append_nil]
  · rw [reconcile_snd, still]
    simp only [all]

end Reconcile

/-! ## What placing leads to -/

namespace Progress

variable {before : Organization} {placement : Placement} {p q : Progress} {n : Nat}

/-- The group of a repository is the first one of that repository. -/
theorem groupFor_find? (p : Progress) (fresh : Nat → Id) (now : Timestamp) (repository : String) :
    ∃ g, (p.groupFor fresh now repository).2.organization.groups.find? (isGroupOf repository) =
        some g ∧ g.id = (p.groupFor fresh now repository).1 := by
  cases found : p.organization.groups.find? (isGroupOf repository) with
  | some g =>
    simp only [groupFor, found]
    exact ⟨g, rfl, rfl⟩
  | none =>
    simp only [groupFor, found, List.find?_append, Option.none_or]
    refine ⟨_, List.find?_cons_of_pos ?_, rfl⟩
    exact beq_self_eq_true (some repository)

/-- A placement that has been carried out is at home. -/
theorem Placing.atHome (placing : Placing before fresh now lookup placement p q) :
    AtHome before lookup placement q.organization := by
  cases placing with
  | settled found settled => exact .settled found settled
  | homeless nowhere => exact .homeless nowhere
  | @there repository home m found loose inside =>
    -- from now on this group is the first one of its repository
    obtain ⟨g, first, here⟩ := p.groupFor_find? fresh now repository
    exact .inside home first ((groupFor_member? _ _).trans found) (inside.trans here.symm)
  | @moved repository home m found loose outside =>
    obtain ⟨g, first, here⟩ := p.groupFor_find? fresh now repository
    have moved : ((p.groupFor fresh now repository).2.organization.modifyMember placement.session
        fun m => { m with group := (p.groupFor fresh now repository).1 }).member?
          placement.session = some { m with group := (p.groupFor fresh now repository).1 } := by
      rw [member?_modifyMember, if_pos rfl, groupFor_member?, found]
      · rfl
      · exact fun _ => rfl
    exact .inside home first moved here.symm
  | @joined repository home absent =>
    obtain ⟨g, first, here⟩ := p.groupFor_find? fresh now repository
    have absent' : (p.groupFor fresh now repository).2.organization.member? placement.session =
        none := (groupFor_member? _ _).trans absent
    have joined := member?_concat (p.groupFor fresh now repository).2.organization.groups
      (m := .create placement.session (p.groupFor fresh now repository).1) absent'
      placement.session
    exact .inside home first (joined.trans (if_pos rfl)) here.symm

/-- A placement stays at home while other sessions are placed. -/
theorem atHome_foldl (rest : List Placement)
    (other : placement.session ∉ rest.map (·.session))
    (h : AtHome before lookup placement p.organization) :
    AtHome before lookup placement
      (rest.foldl (place before fresh now lookup) p).organization := by
  induction rest generalizing p with
  | nil => exact h
  | cons next rest ih =>
    rw [List.map_cons, List.mem_cons, not_or] at other
    have placed := (place_placing before fresh now lookup next p).placed
    obtain ⟨added, grown, -⟩ := placed.groups
    exact ih other.2 (h.mono (placed.others _ other.1) grown)

/-- When all sessions have been placed, all placements are at home. -/
theorem foldl_atHome (placements : List Placement) (named : (placements.map (·.session)).Nodup)
    (p : Progress) :
    ∀ placement ∈ placements, AtHome before lookup placement
      (placements.foldl (place before fresh now lookup) p).organization := by
  induction placements generalizing p with
  | nil => exact fun _ mem => absurd mem List.not_mem_nil
  | cons first rest ih =>
    rw [List.map_cons, List.nodup_cons] at named
    intro placement mem
    rw [List.foldl_cons]
    -- A session is home once it has been placed, and placing the others leaves it there.
    rcases List.mem_cons.1 mem with rfl | mem
    · have placed := (place_placing before fresh now lookup placement p).atHome
      exact atHome_foldl rest named.1 placed
    · exact ih named.2 _ placement mem

/-! ## Identifiers move from the supply to the groups -/

/-- Finding the group of a repository draws its identifier from the supply, if it draws one. -/
theorem groupFor_ids {repository : String}
    (enough : (p.groupFor fresh now repository).2.created ≤ n) :
    (p.groupFor fresh now repository).2.organization.groups.map (·.id) ++
        (p.groupFor fresh now repository).2.supply fresh n =
      p.organization.groups.map (·.id) ++ p.supply fresh n := by
  cases found : p.organization.groups.find? (isGroupOf repository) with
  | some group => simp only [groupFor, found]
  | none =>
    simp only [groupFor, found] at enough ⊢
    rw [supply_eq_cons enough, List.map_append, List.append_assoc]
    rfl

/-- Identifiers go from the supply to the groups, and nowhere else. -/
theorem Placing.ids (placing : Placing before fresh now lookup placement p q)
    (enough : q.created ≤ n) :
    q.organization.groups.map (·.id) ++ q.supply fresh n =
      p.organization.groups.map (·.id) ++ p.supply fresh n := by
  cases placing with
  | settled | homeless => rfl
  | there | moved | joined => exact groupFor_ids enough

/-- Over the whole pass, identifiers go from the supply to the groups only. -/
theorem foldl_ids (placements : List Placement) (p : Progress)
    (enough : (placements.foldl (place before fresh now lookup) p).created ≤ n) :
    (placements.foldl (place before fresh now lookup) p).organization.groups.map (·.id) ++
        (placements.foldl (place before fresh now lookup) p).supply fresh n =
      p.organization.groups.map (·.id) ++ p.supply fresh n := by
  induction placements generalizing p with
  | nil => rfl
  | cons placement rest ih =>
    rw [List.foldl_cons] at enough ⊢
    have drawn := Nat.le_trans (created_le_foldl rest _) enough
    rw [ih _ enough]
    exact (place_placing before fresh now lookup placement p).ids drawn

/-! ## Every change is reported -/

/-- Finding the group of a repository is not reported. -/
theorem groupFor_changes {repository : String} :
    (p.groupFor fresh now repository).2.changes = p.changes := by
  unfold groupFor
  split <;> rfl

/-- What has been reported stays reported. -/
theorem Placing.changes_le (placing : Placing before fresh now lookup placement p q) :
    p.changes.length ≤ q.changes.length := by
  cases placing with
  | settled | homeless => exact Nat.le_refl _
  | there => exact Nat.le_of_eq (congrArg List.length groupFor_changes.symm)
  | moved | joined =>
    rw [groupFor_changes, List.length_append]
    exact Nat.le_add_right _ _

/-- Over the whole pass, what has been reported stays reported. -/
theorem changes_le_foldl (placements : List Placement) (p : Progress) :
    p.changes.length ≤ (placements.foldl (place before fresh now lookup) p).changes.length := by
  induction placements generalizing p with
  | nil => exact Nat.le_refl _
  | cons placement rest ih =>
    have placing := place_placing before fresh now lookup placement p
    exact Nat.le_trans placing.changes_le (ih _)

/-- A placement changes nothing or reports what it does, unless it draws the identifier of a group
that a member is in already. -/
theorem Placing.eq_or_reports (placing : Placing before fresh now lookup placement p q)
    (untaken : p.created < q.created → ∀ m ∈ p.organization.members, m.group ≠ fresh p.created) :
    q = p ∨ p.changes.length < q.changes.length := by
  cases placing with
  | settled | homeless => exact .inl rfl
  | @there repository home m found loose inside =>
    cases first : p.organization.groups.find? (isGroupOf repository) with
    | some g =>
      left
      simp only [groupFor, first]
    | none =>
      -- the new group would be one that the session was in before
      simp only [groupFor, first] at inside untaken
      exact absurd inside (untaken (Nat.lt_succ_self _) m (List.mem_of_find?_eq_some found))
  | moved | joined =>
    right
    rw [groupFor_changes, List.length_append, List.length_singleton]
    exact Nat.lt_succ_self _

/-- Placing all sessions changes nothing or reports something, unless it draws the identifier of a
group that a member is in already. -/
theorem foldl_eq_or_reports (placements : List Placement) (p : Progress)
    (untaken : ∀ i, p.created ≤ i →
      i < (placements.foldl (place before fresh now lookup) p).created →
      ∀ m ∈ p.organization.members, m.group ≠ fresh i) :
    placements.foldl (place before fresh now lookup) p = p ∨
      p.changes.length < (placements.foldl (place before fresh now lookup) p).changes.length := by
  induction placements with
  | nil => exact .inl rfl
  | cons placement rest ih =>
    rw [List.foldl_cons] at untaken ⊢
    have placing := place_placing before fresh now lookup placement p
    generalize p.place before fresh now lookup placement = q at placing untaken ⊢
    -- an identifier that is drawn is that of no member, so whoever gets it is reported
    have first : q = p ∨ p.changes.length < q.changes.length := by
      apply placing.eq_or_reports
      intro drawn
      exact untaken _ (Nat.le_refl _) (Nat.lt_of_lt_of_le drawn (created_le_foldl rest q))
    rcases first with rfl | reported
    · exact ih untaken
    · exact .inr (Nat.lt_of_lt_of_le reported (changes_le_foldl rest q))

end Progress

/-! ## One reconciliation is enough -/

section Reconcile

variable {o : Organization}

/-- The groups have identifiers of their own afterwards. -/
theorem placed_ids (unused : o.DrawsFresh (.reconcile fresh now placements lookup)) :
    ((o.placed fresh now placements lookup).organization.groups.map (·.id)).Nodup := by
  have all : ((o.placed fresh now placements lookup).organization.groups.map (·.id) ++
      (o.placed fresh now placements lookup).supply fresh
        (o.placed fresh now placements lookup).created).Nodup := by
    rw [placed_eq, Progress.foldl_ids placements (o.start placements) (Nat.le_refl _),
      Progress.supply, start, Nat.sub_zero, ← List.range_eq_range']
    exact unused
  exact (List.nodup_append.1 all).1

/-- Whoever is settled stays settled, as no group that settles its members is dropped. -/
theorem isSettled_reconcile (once : (o.members.map (·.session)).Nodup)
    (unused : o.DrawsFresh (.reconcile fresh now placements lookup))
    (named : (placements.map (·.session)).Nodup) {m : Member}
    (settled : isSettled (o.running placements) m = true) :
    isSettled (o.reconcile fresh now placements lookup).2 m = true := by
  have ids : (o.groups.map (·.id)).Nodup := (List.nodup_append.1 unused).1
  have ids' : ((o.reconcile fresh now placements lookup).2.groups.map (·.id)).Nodup :=
    (List.filter_sublist.map _).nodup (placed_ids unused)
  obtain ⟨added, grown, -⟩ := (placed_allPlaced fresh now lookup once named).groups
  apply (isSettled_iff ids' m).2
  rcases (isSettled_iff (o := o.running placements) ids m).1 settled with
    provenance | ⟨g, mem, here, kind⟩
  · exact .inl provenance
  · refine .inr ⟨g, ?_, here, kind⟩
    rw [reconcile_groups, grown]
    apply List.mem_filter.2
    -- the group that settles a member is not one of those that are dropped
    refine ⟨List.mem_append_left _ mem, ?_⟩
    rcases kind with multi | nobodys
    · rw [multi, Bool.true_or, Bool.true_or]
    · rw [nobodys, Option.isNone_none, Bool.or_true, Bool.true_or]

/-- After a reconciliation, all placements are at home. -/
theorem reconcile_atHome (once : (o.members.map (·.session)).Nodup)
    (unused : o.DrawsFresh (.reconcile fresh now placements lookup))
    (named : (placements.map (·.session)).Nodup) :
    let after := (o.reconcile fresh now placements lookup).2
    ∀ placement ∈ placements, AtHome after lookup placement after := by
  intro after placement mem
  have placed : AtHome (o.running placements) lookup placement
      (o.placed fresh now placements lookup).organization := by
    rw [placed_eq]
    exact Progress.foldl_atHome placements named _ placement mem
  apply placed.dropAbandoned.rejudge
  intro m settled
  exact isSettled_reconcile once unused named settled

/-- A reconciliation that reports nothing changes nothing. -/
theorem reconcile_eq_of_silent
    (untaken : ∀ m ∈ o.members, m.group ∉ o.drawn (.reconcile fresh now placements lookup))
    (silent : (o.reconcile fresh now placements lookup).1 = []) :
    (o.reconcile fresh now placements lookup).2 = o := by
  rw [reconcile_fst] at silent
  obtain ⟨unchanged, none⟩ := List.append_eq_nil_iff.1 silent
  have still : o.placed fresh now placements lookup = o.start placements := by
    rw [placed_eq]
    refine (Progress.foldl_eq_or_reports placements (o.start placements) ?_).resolve_right ?_
    · intro i _ drawn m mem taken
      apply untaken m (List.mem_filter.1 mem).1
      rw [taken]
      exact List.mem_map_of_mem (List.mem_range.2 drawn)
    · rw [← placed_eq, unchanged]
      exact Nat.not_lt_zero _
  have same : (o.placed fresh now placements lookup).organization = o := by
    rw [still]
    apply running_eq_self
    rw [← still, unchanged]
  -- a group that is dropped would be reported
  have all : (o.groups.filter fun g => !isAbandoned o g) = o.groups := by
    apply List.filter_eq_self.2
    intro g mem
    rw [same] at none
    have occupied := List.filter_eq_nil_iff.1 (List.map_eq_nil_iff.1 none) g mem
    rw [Bool.eq_false_iff.2 occupied, Bool.not_false]
  rw [reconcile_snd, same]
  simp only [all]

/-- A reconciliation that follows another one with the same placements finds nothing to do. -/
theorem reconcile_reconcile (once : (o.members.map (·.session)).Nodup)
    (unused : o.DrawsFresh (.reconcile fresh now placements lookup))
    (named : (placements.map (·.session)).Nodup) (fresh' : Nat → Id) (now' : Timestamp) :
    let after := (o.reconcile fresh now placements lookup).2
    after.reconcile fresh' now' placements lookup = ([], after) := by
  intro after
  apply reconcile_eq_self
  · intro m mem
    obtain ⟨p, running, same, -⟩ := running_of_mem once named mem
    exact List.any_eq_true.2 ⟨p, running, beq_iff_eq.2 same⟩
  · exact reconcile_atHome once unused named
  · intro g mem
    have kept := (List.mem_filter.1 mem).2
    rwa [Bool.not_eq_true'] at kept

/--
Reconciliation of an organization whose sessions are members once, for placements that name each
session once and identifiers of new groups that neither a group nor a member has.  It reports
nothing exactly if it changes nothing, and when it is repeated with the same placements, whatever
there is to draw from then, it reports nothing and changes nothing.
-/
theorem reconcile_comes_to_rest (once : (o.members.map (·.session)).Nodup)
    (unused : o.DrawsFresh (.reconcile fresh now placements lookup))
    (untaken : ∀ m ∈ o.members, m.group ∉ o.drawn (.reconcile fresh now placements lookup))
    (named : (placements.map (·.session)).Nodup) :
    let reconciled := o.reconcile fresh now placements lookup
    (reconciled.1 = [] ↔ reconciled.2 = o) ∧
      ∀ fresh' now', reconciled.2.reconcile fresh' now' placements lookup =
        ([], reconciled.2) := by
  intro reconciled
  have again : ∀ fresh' now', reconciled.2.reconcile fresh' now' placements lookup =
      ([], reconciled.2) := reconcile_reconcile once unused named
  refine ⟨⟨reconcile_eq_of_silent untaken, ?_⟩, again⟩
  intro same
  -- Reconciling again from the same organization gives the same answer, which is empty.
  have repeated := again fresh now
  rw [same] at repeated
  exact congrArg Prod.fst repeated

/-- Two groups of one repository: the session in the first of them moves to a new group, and the one
in the second moves to the first.  The second group is dropped, and both sessions are at home. -/
theorem duplicate_group_dropped_once :
    let now : Timestamp := ⟨0, 0⟩
    let group (id : Id) (name : String) : Group :=
      { Group.create id name .broadcast false now with repository := some "/old" }
    let o : Organization :=
      ⟨[group ⟨1⟩ "first", group ⟨2⟩ "second"], [.create "goer" ⟨1⟩, .create "stayer" ⟨2⟩]⟩
    let placements : List Placement := [⟨"stayer", some "/old"⟩, ⟨"goer", some "/new"⟩]
    let fresh (i : Nat) : Id := ⟨BitVec.ofNat 128 (20 + i)⟩
    let reconciled := o.reconcile fresh now placements some
    (o.members.map (·.session)).Nodup ∧
      o.DrawsFresh (.reconcile fresh now placements some) ∧
      (∀ m ∈ o.members, m.group ∉ o.drawn (.reconcile fresh now placements some)) ∧
      (placements.map (·.session)).Nodup ∧
      reconciled.1 = [.memberPlaced "stayer" "/old", .memberPlaced "goer" "/new",
        .groupRemoved "second"] ∧
      reconciled.2.members = [.create "goer" ⟨20⟩, .create "stayer" ⟨1⟩] ∧
      reconciled.2.groups.map (·.name) = ["first", "new"] ∧
      reconciled.2 ≠ o ∧
      reconciled.2.reconcile fresh now placements some = ([], reconciled.2) := by
  intro now group o placements fresh reconciled
  have once : (o.members.map (·.session)).Nodup := by decide
  have unused : o.DrawsFresh (.reconcile fresh now placements some) := by decide
  have untaken : ∀ m ∈ o.members, m.group ∉ o.drawn (.reconcile fresh now placements some) := by
    decide
  have named : (placements.map (·.session)).Nodup := by decide
  obtain ⟨silent_iff, again⟩ := reconcile_comes_to_rest once unused untaken named
  have reported : reconciled.1 = [.memberPlaced "stayer" "/old", .memberPlaced "goer" "/new",
      .groupRemoved "second"] := by decide
  have changed : reconciled.2 ≠ o := by
    intro same
    have silent : reconciled.1 = [] := silent_iff.2 same
    rw [reported] at silent
    cases silent
  exact ⟨once, unused, untaken, named, reported, by decide, by decide, changed, again fresh now⟩

end Reconcile

end Ensemble.Organization
