import Ensemble.Proofs.Organization.Membership

/-!
# Reconciliation keeps organizations well formed

Placement draws identifiers for new groups one by one from a supply.  While it goes on, the
organization is well formed, and the identifiers still to be drawn are not in use
(`Progress.Sound`): drawing one moves it from the supply to the groups, so that the two together
stay the same list.  Which groups end up without members is settled after that.

What placing one session can come to is said once (`Progress.Placing`).  A member that is moved is
never an orchestrator, as placement leaves members with provenance alone.
-/

namespace Ensemble.Organization

namespace Progress

/-- What is left of the first `n` identifiers of a supply. -/
def supply (p : Progress) (fresh : Nat → Id) (n : Nat) : List Id :=
  (List.range' p.created (n - p.created)).map fresh

/-- The organization is well formed, and what is left of the supply is not in use. -/
structure Sound (fresh : Nat → Id) (n : Nat) (p : Progress) : Prop where
  organization : p.organization.WellFormed
  unused : (p.organization.groups.map (·.id) ++ p.supply fresh n).Nodup

variable {p : Progress} {fresh : Nat → Id} {n : Nat} {now : Timestamp} {repository : String}

/-! ## The group of a repository -/

/-- Finding the group of a repository changes no member. -/
theorem groupFor_members :
    (p.groupFor fresh now repository).2.organization.members = p.organization.members := by
  unfold groupFor
  split <;> rfl

/-- Finding the group of a repository gives no identifier back. -/
theorem created_le_groupFor : p.created ≤ (p.groupFor fresh now repository).2.created := by
  unfold groupFor
  split
  · exact Nat.le_refl _
  · exact Nat.le_succ _

/-- The next identifier, if one is left, and the rest. -/
theorem supply_eq_cons (left : p.created < n) :
    p.supply fresh n =
      fresh p.created :: (List.range' (p.created + 1) (n - (p.created + 1))).map fresh := by
  have count : n - p.created = n - (p.created + 1) + 1 := by omega
  rw [supply, count, List.range'_succ, List.map_cons]

/-- The group of a repository is there afterwards, and the rest of the supply not in use. -/
theorem Sound.groupFor (h : p.Sound fresh n)
    (enough : (p.groupFor fresh now repository).2.created ≤ n) :
    (p.groupFor fresh now repository).2.Sound fresh n ∧
      (p.groupFor fresh now repository).1 ∈
        (p.groupFor fresh now repository).2.organization.groups.map (·.id) := by
  cases found : p.organization.groups.find? (isGroupOf repository) with
  | some group =>
    simp only [Progress.groupFor, found]
    exact ⟨h, List.mem_map_of_mem (List.mem_of_find?_eq_some found)⟩
  | none =>
    simp only [Progress.groupFor, found] at enough ⊢
    have unused := h.unused
    rw [supply_eq_cons enough] at unused
    have free : fresh p.created ∉ p.organization.groups.map (·.id) := fun used =>
      (List.nodup_append.1 unused).2.2 _ used _ List.mem_cons_self rfl
    refine ⟨⟨h.organization.addGroup free (fun other => absurd rfl other) ?_, ?_⟩, ?_⟩
    · -- The group is created for a repository that has none.
      intro repository' own
      have same := beq_iff_eq.1 (Bool.and_eq_true_iff.1 own).2
      cases same
      exact found
    · -- The new group's identifier is where the head of the supply was.
      rw [List.map_append, List.append_assoc]
      exact unused
    · rw [List.map_append]
      exact List.mem_append_right _ List.mem_cons_self

/-! ## Placing a session -/

section Place

variable (before : Organization) (fresh : Nat → Id) (now : Timestamp)
  (lookup : String → Option String) (placement : Placement)

/-- What becomes of an organization when a session is placed. -/
inductive Placing (p : Progress) : Progress → Prop
  | settled {m : Member} (found : p.organization.member? placement.session = some m)
      (settled : isSettled before m = true) : Placing p p
  /-- The session belongs to no repository. -/
  | homeless (nowhere : placement.worktree.bind lookup = none) : Placing p p
  /-- The session is in the group of its repository already. -/
  | there {repository : String} (home : placement.worktree.bind lookup = some repository)
      {m : Member} (found : p.organization.member? placement.session = some m)
      (loose : isSettled before m = false)
      (inside : m.group = (p.groupFor fresh now repository).1) :
      Placing p (p.groupFor fresh now repository).2
  | moved {repository : String} (home : placement.worktree.bind lookup = some repository)
      {m : Member} (found : p.organization.member? placement.session = some m)
      (loose : isSettled before m = false)
      (outside : m.group ≠ (p.groupFor fresh now repository).1) :
      Placing p ⟨(p.groupFor fresh now repository).2.organization.modifyMember placement.session
          fun m => { m with group := (p.groupFor fresh now repository).1 },
        (p.groupFor fresh now repository).2.created,
        (p.groupFor fresh now repository).2.changes ++
          [.memberPlaced placement.session repository]⟩
  | joined {repository : String} (home : placement.worktree.bind lookup = some repository)
      (absent : p.organization.member? placement.session = none) :
      Placing p ⟨{ (p.groupFor fresh now repository).2.organization with
          members := (p.groupFor fresh now repository).2.organization.members ++
            [.create placement.session (p.groupFor fresh now repository).1] },
        (p.groupFor fresh now repository).2.created,
        (p.groupFor fresh now repository).2.changes ++
          [.memberPlaced placement.session repository]⟩

/-- `Placing` says everything that placing a session does. -/
theorem place_placing (p : Progress) :
    Placing before fresh now lookup placement p (p.place before fresh now lookup placement) := by
  simp only [place]
  cases found : p.organization.member? placement.session with
  | none =>
    cases home : placement.worktree.bind lookup with
    | none => exact .homeless home
    | some repository => exact .joined home found
  | some m =>
    -- a settled member is left alone whether or not it has a repository
    cases settled : isSettled before m with
    | true =>
      simp only [settled]
      exact .settled found settled
    | false =>
      simp only [settled]
      cases home : placement.worktree.bind lookup with
      | none => exact .homeless home
      | some repository =>
        by_cases inside : (m.group == (p.groupFor fresh now repository).1) = true
        · simp only [if_pos inside]
          exact .there home found settled (beq_iff_eq.1 inside)
        · simp only [if_neg inside]
          exact .moved home found settled (mt beq_iff_eq.2 inside)

end Place

variable {before : Organization} {lookup : String → Option String} {placement : Placement}

/-- The identifiers that were drawn stay drawn. -/
theorem Placing.created_le {q : Progress}
    (placing : Placing before fresh now lookup placement p q) : p.created ≤ q.created := by
  cases placing with
  | settled | homeless => exact Nat.le_refl _
  | there | moved | joined => exact created_le_groupFor

/-- Whom placement may move is no orchestrator. -/
theorem isOrchestrator_of_not_settled {m : Member} (loose : isSettled before m = false) :
    m.isOrchestrator = false := by
  by_contra orchestrator
  rw [Bool.not_eq_false] at orchestrator
  rw [isSettled, Member.hasProvenance, orchestrator, Bool.true_or, Bool.true_or, Bool.true_or]
    at loose
  cases loose

/-- Placing a session keeps the organization well formed and the supply unused. -/
theorem Placing.sound {q : Progress} (placing : Placing before fresh now lookup placement p q)
    (h : p.Sound fresh n) (enough : q.created ≤ n) : q.Sound fresh n := by
  cases placing with
  | settled | homeless => exact h
  | there => exact (h.groupFor enough).1
  | @moved repository _ m found loose =>
    obtain ⟨grouped, there⟩ := h.groupFor enough
    refine ⟨grouped.organization.modifyMember (fun _ => rfl) (fun _ _ => there) ?_,
      grouped.unused⟩
    intro id m' same leads
    -- The member that moves leads no group, before and after.
    rw [member?, groupFor_members, ← member?, found] at same
    cases same
    have worker : m.isOrchestrator = false := isOrchestrator_of_not_settled loose
    have orchestrator : m.isOrchestrator = true := (Bool.and_eq_true_iff.1 leads).2
    rw [worker] at orchestrator
    cases orchestrator
  | joined _ absent =>
    obtain ⟨grouped, there⟩ := h.groupFor enough
    refine ⟨grouped.organization.addNewMember ?_ there, grouped.unused⟩
    rw [member?, groupFor_members, ← member?, absent]

/-! ## Placing all sessions -/

/-- Over the whole pass, no identifier is given back. -/
theorem created_le_foldl (placements : List Placement) (p : Progress) :
    p.created ≤ (placements.foldl (place before fresh now lookup) p).created := by
  induction placements generalizing p with
  | nil => exact Nat.le_refl _
  | cons placement rest ih =>
    rw [List.foldl_cons]
    exact Nat.le_trans (place_placing before fresh now lookup placement p).created_le (ih _)

/-- Placing all sessions keeps the organization well formed, if the supply has no more to give than
what is drawn in the end. -/
theorem Sound.foldl (placements : List Placement) {p : Progress} (h : p.Sound fresh n)
    (enough : (placements.foldl (place before fresh now lookup) p).created ≤ n) :
    (placements.foldl (place before fresh now lookup) p).Sound fresh n := by
  induction placements generalizing p with
  | nil => exact h
  | cons placement rest ih =>
    rw [List.foldl_cons] at enough ⊢
    -- What is drawn for the first session is drawn in the end as well.
    have drawn := Nat.le_trans (created_le_foldl rest _) enough
    exact ih ((place_placing before fresh now lookup placement p).sound h drawn) enough

end Progress

/-! ## Reconciling -/

/-- An organization after placement, its dead members removed and its empty groups still there. -/
def placed (o : Organization) (fresh : Nat → Id) (now : Timestamp) (placements : List Placement)
    (lookup : String → Option String) : Progress :=
  let isLive (m : Member) : Bool := placements.any fun p => p.session == m.session
  let removed := (o.members.filter fun m => !isLive m).map fun m => Change.memberRemoved m.session
  let before := { o with members := o.members.filter isLive }
  placements.foldl (Progress.place before fresh now lookup) ⟨before, 0, removed⟩

/-- What reconciliation leaves: the organization after placement, without its abandoned groups. -/
theorem reconcile_snd (o : Organization) (fresh : Nat → Id) (now : Timestamp)
    (placements : List Placement) (lookup : String → Option String) :
    (o.reconcile fresh now placements lookup).2 =
      let placed := (o.placed fresh now placements lookup).organization
      { placed with groups := placed.groups.filter fun g => !isAbandoned placed g } :=
  rfl

namespace WellFormed

variable {o : Organization}

/-- Abandoned groups may be dropped, as they have no members. -/
theorem dropAbandoned (h : WellFormed o) :
    WellFormed { o with groups := o.groups.filter fun g => !isAbandoned o g } := by
  refine h.dropGroups List.filter_sublist (List.Sublist.refl _) fun m mem g old same => ?_
  have occupied : (o.members.any fun m => m.group == g.id) = true :=
    List.any_eq_true.2 ⟨m, mem, beq_iff_eq.2 same.symm⟩
  refine List.mem_filter.2 ⟨old, ?_⟩
  rw [isAbandoned, occupied, Bool.not_true, Bool.and_false, Bool.not_false]

/-- Reconciliation keeps an organization well formed if what it draws is unused. -/
theorem reconcile (h : WellFormed o) {fresh : Nat → Id} {now : Timestamp}
    {placements : List Placement} {lookup : String → Option String}
    (unused : (o.groups.map (·.id) ++
      (List.range (o.placed fresh now placements lookup).created).map fresh).Nodup) :
    WellFormed (o.reconcile fresh now placements lookup).2 := by
  rw [List.range_eq_range'] at unused
  have placed : (o.placed fresh now placements lookup).Sound fresh _ :=
    Progress.Sound.foldl placements ⟨h.dropMembers List.filter_sublist, unused⟩ (Nat.le_refl _)
  rw [reconcile_snd]
  exact placed.organization.dropAbandoned

end WellFormed

end Ensemble.Organization
