import Ensemble.Organization.Document
import Ensemble.Proofs.Reflection.Document

/-!
# Organizations read back

Members, groups and organizations are recovered from every extension of their documents.  A cycle
that lacks an identifier takes one that is drawn for its group; no document of a group lacks it, so
what is drawn does not matter.
-/

namespace Ensemble

open Json

/-! ## Members -/

namespace Member

/-- A member is a record without records in it. -/
def shape : Json.Shape :=
  .record fieldNames fun _ => .plain

/-- The fields of a member in its document. -/
theorem toJson_eq (m : Member) : m.toJson = .record (present [
    ("session", some (.str m.session)),
    ("group_id", some m.group.toJson),
    ("role", some (.str m.role.name)),
    ("preferred_model", m.preferredModel.map .str),
    ("persona", m.persona.map .str)]) := by
  simp only [toJson, present_some, present_map, present_nil, List.cons_append, List.nil_append,
    List.append_nil]

/-- A member is recovered from every extension of its document. -/
theorem recovers (m : Member) : Recovers shape toJson ofJson? m := by
  intro w hw
  rw [toJson_eq] at hw
  obtain ⟨found, hfields, hfound⟩ := fields?_of_extends hw rfl (by decide)
  simp only [List.forall_mem_cons] at hfound
  obtain ⟨session, group, role, preferredModel, persona, -⟩ := hfound
  refine bind_eq hfields ?_
  simp only [fieldNames, List.map_cons, List.map_nil]
  refine bind_eq (required?_eq (recovers_str _) session) ?_
  refine bind_eq (required?_eq m.group.recovers group) ?_
  refine bind_eq (orDefault?_eq (recovers_choice (MemberRole.lookup_name _)) _ role) ?_
  refine bind_eq (optional?_eq (fun s _ => recovers_str s) rfl preferredModel) ?_
  refine bind_eq (optional?_eq (fun s _ => recovers_str s) rfl persona) ?_
  rfl

/-- The document of a member is well formed. -/
theorem wellFormed_toJson (m : Member) : m.toJson.WellFormed := by
  rw [toJson_eq]
  exact wellFormed_present (by simp)

/-- The document of a member is an extension of itself. -/
theorem extends_toJson (m : Member) : Extends shape m.toJson m.toJson := by
  rw [toJson_eq]
  exact extends_present (by simp)

end Member

/-! ## Groups -/

namespace Group

/-- The cycle of a group is a record. -/
def shape : Json.Shape :=
  .record fieldNames fun name => if name = "reflection" then Reflection.Cycle.shape else .plain

/-- A group whose cycle can be stored and whose time reads back. -/
structure Storable (g : Group) : Prop where
  reflection : ∀ c ∈ g.reflection, c.Storable
  createdAt : g.createdAt.ReadsBack

/-- The fields of a group in its document. -/
theorem toJson_eq (g : Group) : g.toJson = .record (present [
    ("id", some g.id.toJson),
    ("name", some (.str g.name)),
    ("is_multi_agent", some (.bool g.isMultiAgent)),
    ("mode", some (.str g.mode.name)),
    ("orchestrator_prompt", g.orchestratorPrompt.map .str),
    ("default_orchestrator_model", g.orchestratorModel.map .str),
    ("default_worker_model", g.workerModel.map .str),
    ("reflection", g.reflection.map Reflection.Cycle.toJson),
    ("repository_id", g.repository.map .str),
    ("created_at", some g.createdAt.toJson)]) := by
  simp only [toJson, present_some, present_map, present_nil, List.append_assoc, List.cons_append,
    List.nil_append]

/-- A group is recovered from every extension of its document. -/
theorem recovers {g : Group} (h : g.Storable) (fresh : Id) (now : Timestamp) :
    Recovers shape toJson (ofJson? fresh now) g := by
  intro w hw
  rw [toJson_eq] at hw
  obtain ⟨found, hfields, hfound⟩ := fields?_of_extends hw rfl (by decide)
  simp only [List.forall_mem_cons, String.reduceEq, if_false, if_true] at hfound
  obtain ⟨id, name, isMultiAgent, mode, orchestratorPrompt, orchestratorModel, workerModel,
    reflection, repository, createdAt, -⟩ := hfound
  have hcycle : ∀ c ∈ g.reflection, Recovers Reflection.Cycle.shape Reflection.Cycle.toJson
      (Reflection.Cycle.ofJson? fresh now) c :=
    fun c hc => Reflection.Cycle.recovers (h.reflection c hc) fresh now
  refine bind_eq hfields ?_
  simp only [fieldNames, List.map_cons, List.map_nil]
  refine bind_eq (required?_eq g.id.recovers id) ?_
  refine bind_eq (required?_eq (recovers_str _) name) ?_
  refine bind_eq (orDefault?_eq (recovers_bool _) _ isMultiAgent) ?_
  refine bind_eq (orDefault?_eq (recovers_choice (GroupMode.lookup_name _)) _ mode) ?_
  refine bind_eq (optional?_eq (fun s _ => recovers_str s) rfl orchestratorPrompt) ?_
  refine bind_eq (optional?_eq (fun s _ => recovers_str s) rfl orchestratorModel) ?_
  refine bind_eq (optional?_eq (fun s _ => recovers_str s) rfl workerModel) ?_
  refine bind_eq (optional?_eq hcycle rfl reflection) ?_
  refine bind_eq (optional?_eq (fun s _ => recovers_str s) rfl repository) ?_
  refine bind_eq (orDefault?_eq h.createdAt.recovers _ createdAt) ?_
  rfl

/-- Groups are recovered one after another, whatever may be drawn for them. -/
theorem listOfJson?_recovers (fresh : Nat → Id) (now : Timestamp) {groups : List Group}
    (h : ∀ g ∈ groups, g.Storable) {ws : List Json}
    (hws : List.Forall₂ (Extends shape) (groups.map toJson) ws) (start : Nat) :
    listOfJson? fresh now start ws = some groups := by
  induction groups generalizing ws start with
  | nil =>
    cases hws
    rfl
  | cons g groups ih =>
    obtain ⟨hg, hgroups⟩ := List.forall_mem_cons.mp h
    rcases hws with - | ⟨hw, hws⟩
    rw [listOfJson?, recovers hg (fresh start) now _ hw, ih hgroups hws]
    rfl

/-- The document of a group is well formed. -/
theorem wellFormed_toJson (g : Group) : g.toJson.WellFormed := by
  rw [toJson_eq]
  exact wellFormed_present (by simp [Reflection.Cycle.wellFormed_toJson])

/-- The document of a group is an extension of itself. -/
theorem extends_toJson (g : Group) : Extends shape g.toJson g.toJson := by
  rw [toJson_eq]
  exact extends_present (by simp [Reflection.Cycle.extends_toJson])

end Group

/-! ## Organizations -/

namespace Organization

/-- The groups and members of an organization are records. -/
def shape : Json.Shape :=
  .record fieldNames fun name =>
    if name = "groups" then .list Group.shape
    else if name = "members" then .list Member.shape
    else .plain

/-- The fields of an organization in its document. -/
theorem toJson_eq (o : Organization) : o.toJson = .record (present [
    ("groups", some (.array (o.groups.map Group.toJson))),
    ("members", some (.array (o.members.map Member.toJson)))]) := rfl

/-- An organization is recovered from every extension of its document. -/
theorem recovers {o : Organization} (h : ∀ g ∈ o.groups, g.Storable) (fresh : Nat → Id)
    (now : Timestamp) : Recovers shape toJson (ofJson? fresh now) o := by
  intro w hw
  rw [toJson_eq] at hw
  obtain ⟨found, hfields, hfound⟩ := fields?_of_extends hw rfl (by decide)
  simp only [List.forall_mem_cons, String.reduceEq, if_false, if_true] at hfound
  obtain ⟨groups, members, -⟩ := hfound
  have hmembers : ∀ m ∈ o.members, Recovers Member.shape Member.toJson Member.ofJson? m :=
    fun m _ => m.recovers
  have hgroups {read : Json → Option (List Group)}
      (hread : ∀ items, read (.array items) = Group.listOfJson? fresh now 0 items) :
      Recovers (.list Group.shape) (fun gs => .array (gs.map Group.toJson)) read o.groups := by
    rintro w ⟨vs, ws, hvs, rfl, hall⟩
    cases hvs
    rw [hread]
    exact Group.listOfJson?_recovers fresh now h hall 0
  refine bind_eq hfields ?_
  simp only [fieldNames, List.map_cons, List.map_nil]
  refine bind_eq (orDefault?_eq (hgroups fun items => rfl) _ groups) ?_
  refine bind_eq (orDefault?_eq (recovers_list hmembers) _ members) ?_
  rfl

/-- The document of an organization is well formed. -/
theorem wellFormed_toJson (o : Organization) : o.toJson.WellFormed := by
  rw [toJson_eq]
  have hgroups := wellFormed_list Group.wellFormed_toJson o.groups
  have hmembers := wellFormed_list Member.wellFormed_toJson o.members
  exact wellFormed_present (by simp [hgroups, hmembers])

/-- The document of an organization is an extension of itself. -/
theorem extends_toJson (o : Organization) : Extends shape o.toJson o.toJson := by
  rw [toJson_eq]
  have hgroups := extends_list Group.extends_toJson o.groups
  have hmembers := extends_list Member.extends_toJson o.members
  exact extends_present (by simp [hgroups, hmembers])

end Organization

end Ensemble
