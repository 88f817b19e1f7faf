import Ensemble.Organization.Steering
import Ensemble.Proofs.Organization.Membership
import Ensemble.Proofs.Reflection.Lifecycle
import Ensemble.Reflection.Iteration

/-!
# The cycle of a group over time

A cycle keeps its identifier whatever is done to it, so the identifier of a group's cycle changes
only when the group is given another cycle, when it loses its cycle, and when it is deleted.
`CycleStep` says this of two organizations, and the operations on the cycle of a group are all of
this kind.
-/

namespace Ensemble

/-! ## Identifiers of cycles -/

namespace Reflection.Cycle

variable (c : Cycle) (now : Timestamp)

/-- Concluding an iteration keeps the identifier of the cycle. -/
theorem conclude_id (response : String) : (c.conclude response now).2.id = c.id :=
  (c.conclude_same response now).id

/-- Concluding with an evaluation keeps the identifier of the cycle. -/
theorem concludeWith_id (response : String) (evaluation : Evaluation) (model : Option String) :
    (c.concludeWith response evaluation model now).2.id = c.id :=
  (c.concludeWith_same response now evaluation model).id

/-- Giving an iteration back keeps the identifier of the cycle. -/
theorem retry_id : (c.retry now).2.id = c.id := by
  rw [retry]
  split
  next =>
    rw [countStall]
    split <;> rfl
  next => rfl

/-- Beginning an iteration keeps the identifier of the cycle. -/
theorem begin_id : c.begin.id = c.id := by
  rw [begin]
  split <;> rfl

/-- Taking an iteration keeps the identifier of the cycle. -/
theorem takeIteration_id : c.takeIteration.2.id = c.id := by
  rw [takeIteration]
  split
  next => rfl
  next =>
    split
    next => rfl
    next => exact begin_id _

/-- Pausing keeps the identifier of the cycle. -/
theorem pause_id : c.pause.id = c.id := by
  rw [pause]
  split <;> rfl

/-- Stopping keeps the identifier of the cycle. -/
theorem stop_id : (c.stop now).id = c.id := by
  rw [stop]
  split <;> rfl

end Reflection.Cycle

namespace Organization

open Reflection (Cycle)

/-! ## Looking a cycle up -/

section Lookup

variable {o : Organization} {group : Id}

/-- The organization with a cycle in a group, or with none. -/
def assignCycle (o : Organization) (group : Id) (cycle : Option Cycle) : Organization :=
  o.modifyGroup group fun g => { g with reflection := cycle }

/-- Assigning a cycle keeps the identifiers of the groups. -/
theorem ids_assignCycle (cycle : Option Cycle) :
    (o.assignCycle group cycle).groups.map (·.id) = o.groups.map (·.id) :=
  map_modifyFirst (f := fun g : Group => { g with reflection := cycle }) fun _ => rfl

/-- In a group that is there, the cycle is found that was assigned. -/
theorem cycle?_assignCycle (cycle : Option Cycle) :
    (o.assignCycle group cycle).cycle? group = (o.group? group).bind fun _ => cycle := by
  unfold cycle? assignCycle modifyGroup group?
  induction o.groups with
  | nil => rfl
  | cons g rest ih =>
    rw [modifyFirst]
    -- only the first group of the identifier is assigned the cycle, and it is the one that is found
    by_cases here : g.id = group
    · simp [here]
    · rw [beq_eq_false_iff_ne.2 here, if_neg Bool.false_ne_true, List.find?_cons_of_neg,
        List.find?_cons_of_neg]
      · exact ih
      · exact mt beq_iff_eq.1 here
      · exact mt beq_iff_eq.1 here

/-- A cycle is found where it was put. -/
theorem cycle?_putCycle {c : Cycle} (found : o.cycle? group = some c) (c' : Cycle) :
    (o.putCycle group c').cycle? group = some c' := by
  obtain ⟨g, there, -⟩ := Option.bind_eq_some_iff.1 found
  exact (cycle?_assignCycle (some c')).trans (by rw [there, Option.bind_some])

/-- The cycle of a group is current if it has the identifier that is asked for. -/
theorem currentCycle?_eq_some_iff {cycle : Id} {c : Cycle} :
    o.currentCycle? group cycle = some c ↔ o.cycle? group = some c ∧ c.id = cycle := by
  simp [currentCycle?, Option.filter_eq_some_iff]

/-- The group has another cycle, or none. -/
theorem currentCycle?_eq_none_iff {cycle : Id} :
    o.currentCycle? group cycle = none ↔ (o.cycle? group).map (·.id) ≠ some cycle := by
  cases found : o.cycle? group <;> simp [currentCycle?, found, Option.filter]

/-- A group that is there has the cycle that it is given. -/
theorem cycle?_setReflection (cycle : Option Cycle) :
    (o.setReflection group cycle).2.cycle? group = (o.group? group).bind fun _ => cycle := by
  unfold setReflection updateGroup
  cases there : o.group? group with
  | none => simp only [cycle?, there, Option.bind_none]
  | some g => exact (cycle?_assignCycle cycle).trans (by rw [there])

/-- Steering changes the cycle of the group, if there is one. -/
theorem cycle?_steerCycle (f : Cycle → Cycle) :
    (o.steerCycle group f).2.cycle? group = (o.cycle? group).map f := by
  unfold steerCycle
  cases there : o.group? group with
  | none => simp only [cycle?, there, Option.bind_none, Option.map_none]
  | some g =>
    cases has : g.reflection with
    | none => simp only [has, cycle?, there, Option.bind_some, Option.map_none]
    | some c =>
      have found : o.cycle? group = some c := by rw [cycle?, there, Option.bind_some, has]
      simp only [has, found, Option.map_some, cycle?_putCycle found]

/-- Deleting a group takes its identifier away. -/
theorem ids_deleteGroup (o : Organization) (group : Id) :
    (o.deleteGroup group).2.groups.map (·.id) = (o.groups.map (·.id)).erase group := by
  unfold deleteGroup
  cases there : o.group? group with
  | none =>
    refine (List.erase_of_not_mem fun mem => ?_).symm
    obtain ⟨g, mem, here⟩ := List.mem_map.1 mem
    exact List.find?_eq_none.1 there g mem (beq_iff_eq.2 here)
  | some g =>
    rw [List.erase_eq_eraseP', List.eraseP_map]
    rfl

/-- A group that is deleted is gone. -/
theorem group?_deleteGroup (once : (o.groups.map (·.id)).Nodup) :
    (o.deleteGroup group).2.group? group = none := by
  refine List.find?_eq_none.2 fun g mem here => ?_
  have mem := List.mem_map_of_mem (f := (·.id)) mem
  rw [ids_deleteGroup, beq_iff_eq.1 here] at mem
  exact once.not_mem_erase mem

/-- A new cycle has the identifier it is given. -/
theorem startCycle_answer {settings : ReflectionSettings} {goal : String}
    {evaluator : Option String} {fresh id : Id} {now : Timestamp}
    (started : (o.startCycle settings group goal evaluator fresh now).1 = .ok id) :
    id = fresh := by
  simp only [startCycle] at started
  generalize (o.setReflection group _).1 = answer at started
  cases answer with
  | error failure => cases started
  | ok =>
    cases started
    rfl

end Lookup

/-! ## Steps -/

/-- No group is added, and the cycle of one group keeps its identifier, is given up, or is one of
those that are brought in. -/
structure CycleStep (group : Id) (brought : List Id) (o o' : Organization) : Prop where
  ids : (o'.groups.map (·.id)).Sublist (o.groups.map (·.id))
  cycle : ∀ id, (o'.cycle? group).map (·.id) = some id →
    (o.cycle? group).map (·.id) = some id ∨ id ∈ brought

namespace CycleStep

variable {group : Id} {brought : List Id} {o : Organization}

/-- Leaving an organization as it is is a step. -/
theorem refl (group : Id) (brought : List Id) (o : Organization) : CycleStep group brought o o :=
  ⟨.refl _, fun _ => .inl⟩

/-- The cycle of the group is changed. -/
theorem putCycle {c c' : Cycle} (found : o.cycle? group = some c) (same : c'.id = c.id) :
    CycleStep group brought o (o.putCycle group c') where
  ids := (ids_assignCycle (some c')).symm ▸ .refl _
  cycle := fun id now => .inl (by
    rw [cycle?_putCycle found, Option.map_some, same] at now
    rw [found]
    exact now)

/-- The group is given a cycle, or loses it. -/
theorem setReflection (cycle : Option Cycle) (mem : ∀ c ∈ cycle, c.id ∈ brought) :
    CycleStep group brought o (o.setReflection group cycle).2 := by
  cases there : o.group? group with
  | none => simpa only [Organization.setReflection, updateGroup, there] using refl group brought o
  | some g =>
    have assigned : (o.setReflection group cycle).2 = o.assignCycle group cycle := by
      simp only [Organization.setReflection, updateGroup, there]
      rfl
    rw [assigned]
    refine ⟨(ids_assignCycle cycle).symm ▸ .refl _, fun id now => .inr ?_⟩
    rw [cycle?_assignCycle, there] at now
    obtain ⟨c, rfl, rfl⟩ := Option.map_eq_some_iff.1 now
    exact mem c rfl

/-- The group is given a new cycle. -/
theorem startCycle (settings : ReflectionSettings) (goal : String) (evaluator : Option String)
    {fresh : Id} (mem : fresh ∈ brought) (now : Timestamp) :
    CycleStep group brought o (o.startCycle settings group goal evaluator fresh now).2 :=
  setReflection _ fun c eq => by
    cases eq
    exact mem

/-- The cycle of the group is paused, resumed or stopped. -/
theorem steerCycle {f : Cycle → Cycle} (same : ∀ c, (f c).id = c.id) :
    CycleStep group brought o (o.steerCycle group f).2 := by
  unfold Organization.steerCycle
  cases there : o.group? group with
  | none => exact .refl ..
  | some g =>
    cases has : g.reflection with
    | none => simpa only [has] using refl group brought o
    | some c =>
      have found : o.cycle? group = some c := by rw [cycle?, there, Option.bind_some, has]
      simpa only [has] using putCycle found (same c)

/-- The group is deleted, and its cycle with it. -/
theorem deleteGroup (once : (o.groups.map (·.id)).Nodup) :
    CycleStep group brought o (o.deleteGroup group).2 where
  ids := ids_deleteGroup o group ▸ List.erase_sublist
  cycle := fun id now => by
    rw [cycle?, group?_deleteGroup once] at now
    cases now

end CycleStep

end Organization

end Ensemble
