import Ensemble.Proofs.Organization.Placement

/-!
# Reachable organizations

An organization is reachable if operations lead to it from the empty one in which no identifier is
drawn twice.  Only the identifiers that an operation draws have to be unused, not the whole supply
that it draws from.

All reachable organizations are well formed, which is spelled out by `membership_sound`.
-/

namespace Ensemble.Organization

/-- The identifiers that an operation draws for new groups. -/
def drawn (o : Organization) : Operation → List Id
  | .createGroup id .. => [id]
  | .reconcile fresh now placements lookup =>
    (List.range (o.placed fresh now placements lookup).created).map fresh
  | _ => []

/-- The identifiers that an operation draws differ from each other and from those in use. -/
def DrawsFresh (o : Organization) (op : Operation) : Prop :=
  (o.groups.map (·.id) ++ o.drawn op).Nodup

instance (o : Organization) (op : Operation) : Decidable (o.DrawsFresh op) :=
  inferInstanceAs (Decidable (List.Nodup _))

/-- The organizations that operations lead to from the empty one. -/
inductive Reachable : Organization → Prop where
  | empty : Reachable .empty
  | perform {o} (before : Reachable o) {op : Operation} (fresh : o.DrawsFresh op) :
      Reachable (o.perform op).2

/-- The answer's form does not matter to the organization. -/
theorem ofAttempt_snd {α : Type} (wrap : α → Answer) (answered : Attempt α × Organization) :
    (Answer.ofAttempt wrap answered).2 = answered.2 := by
  obtain ⟨attempt, o⟩ := answered
  cases attempt <;> rfl

theorem WellFormed.answered {α : Type} {wrap : α → Answer} {answered : Attempt α × Organization}
    (h : WellFormed answered.2) : WellFormed (Answer.ofAttempt wrap answered).2 := by
  rw [ofAttempt_snd]
  exact h

theorem WellFormed.perform {o : Organization} (h : WellFormed o) {op : Operation}
    (fresh : o.DrawsFresh op) : WellFormed (o.perform op).2 := by
  cases op with
  | createGroup id name mode isMultiAgent now =>
    -- Only creating a group and reconciling draw ids; the others keep them by their own lemmas.
    have unused : id ∉ o.groups.map (·.id) := fun used =>
      (List.nodup_append.1 fresh).2.2 id used id List.mem_cons_self rfl
    exact h.createGroup unused name mode isMultiAgent now
  | deleteGroup id => exact (h.deleteGroup id).answered
  | addMember id session role => exact (h.addMember id session role).answered
  | removeMember session => exact (h.removeMember session).answered
  | promote id session => exact (h.promote id session).answered
  | setMode id mode => exact (h.setMode id mode).answered
  | setPersona session persona => exact (h.setPersona session persona).answered
  | setPreferredModel session model => exact (h.setPreferredModel session model).answered
  | setReflection id cycle => exact (h.setReflection id cycle).answered
  | reconcile supply now placements lookup => exact h.reconcile fresh

theorem Reachable.wellFormed {o : Organization} (reachable : Reachable o) : WellFormed o := by
  induction reachable with
  | empty => exact empty_wellFormed
  | perform before fresh ih => exact ih.perform fresh

/--
In every reachable organization, members are sessions of their own, in groups that are there, and
groups have identifiers of their own.  A group has at most one orchestrator, is a multi-agent group
if its mode is not broadcast, and otherwise is the only such group of its repository.
-/
theorem membership_sound {o : Organization} (reachable : Reachable o) :
    (o.members.map (·.session)).Nodup ∧
      (∀ m ∈ o.members, ∃ g ∈ o.groups, g.id = m.group) ∧
      (o.groups.map (·.id)).Nodup ∧
      (∀ id, ((o.membersOf id).filter (·.isOrchestrator)).length ≤ 1) ∧
      (∀ g ∈ o.groups, g.mode ≠ .broadcast → g.isMultiAgent = true) ∧
      (∀ repository, (o.groups.filter (isGroupOf repository)).length ≤ 1) := by
  obtain ⟨groups, members⟩ := reachable.wellFormed
  refine ⟨members.sessions, fun m mem => ?_, groups.ids, fun id => ?_, groups.moded,
    fun repository => ?_⟩
  · exact List.mem_map.1 (members.grouped m mem)
  · have leaders : (o.membersOf id).filter (·.isOrchestrator) = o.members.filter (·.leads id) := by
      rw [membersOf, List.filter_filter]
      exact List.filter_congr fun m _ => Bool.and_comm _ _
    rw [leaders, ← List.countP_eq_length_filter]
    exact members.led id
  · rw [← List.countP_eq_length_filter]
    exact groups.homes repository

/-- Another member of a team is promoted, and two sessions of one repository are placed. -/
theorem promoted_then_placed :
    let now : Timestamp := ⟨0, 0⟩
    let team : Id := ⟨7⟩
    let founded := (empty.perform (.createGroup team "team" .orchestrator false now)).2
    let led := (founded.perform (.addMember team "a" .orchestrator)).2
    let joined := (led.perform (.addMember team "b" .worker)).2
    let promoted := (joined.perform (.promote team "b")).2
    let o := (promoted.perform (.reconcile (fun i => ⟨BitVec.ofNat 128 i⟩) now
      [⟨"a", none⟩, ⟨"b", some "x"⟩, ⟨"c", some "x"⟩, ⟨"d", some "x"⟩] fun _ => some "/r")).2
    Reachable o ∧
      o.members.map (fun m => (m.session, m.group, m.role)) =
        [("a", team, .worker), ("b", team, .orchestrator), ("c", ⟨0⟩, .worker),
          ("d", ⟨0⟩, .worker)] ∧
      (∀ m ∈ o.members, ∃ g ∈ o.groups, g.id = m.group) ∧
      ((o.membersOf team).filter (·.isOrchestrator)).length ≤ 1 ∧
      (o.groups.filter (isGroupOf "/r")).length ≤ 1 := by
  intro now team founded led joined promoted o
  have reachable_joined : Reachable joined :=
    .perform (.perform (.perform .empty (by decide)) (by decide)) (by decide)
  have reachable : Reachable o := .perform (.perform reachable_joined (by decide)) (by decide)
  obtain ⟨-, grouped, -, led, -, homes⟩ := membership_sound reachable
  exact ⟨reachable, by decide, grouped, led team, homes "/r"⟩

end Ensemble.Organization
