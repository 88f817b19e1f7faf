import Ensemble.Organization.Basic
import Ensemble.Reflection.Document

/-!
# Organizations as documents

The JSON documents of groups, members and organizations.  A group must have an identifier and a
name, and a member a session and a group; every other missing field has a default.  Fields that hold
nothing are not written.
-/

namespace Ensemble

namespace GroupMode

/-- The names of the modes in documents. -/
def names : List (String × GroupMode) :=
  [("Broadcast", .broadcast), ("Sequential", .sequential), ("Orchestrator", .orchestrator),
    ("OrchestratorReflect", .orchestratorReflect)]

/-- The name of a mode in documents. -/
def name : GroupMode → String
  | broadcast => "Broadcast"
  | sequential => "Sequential"
  | orchestrator => "Orchestrator"
  | orchestratorReflect => "OrchestratorReflect"

/-- Each mode is found under its name. -/
theorem lookup_name (m : GroupMode) : names.lookup m.name = some m := by
  cases m <;> rfl

end GroupMode

namespace MemberRole

/-- The names of the roles in documents. -/
def names : List (String × MemberRole) :=
  [("Worker", .worker), ("Orchestrator", .orchestrator)]

/-- The name of a role in documents. -/
def name : MemberRole → String
  | worker => "Worker"
  | orchestrator => "Orchestrator"

/-- Each role is found under its name. -/
theorem lookup_name (r : MemberRole) : names.lookup r.name = some r := by
  cases r <;> rfl

end MemberRole

namespace Member

/-- The names of the fields of a member. -/
def fieldNames : List String := ["session", "group_id", "role", "preferred_model", "persona"]

/-- Reads a member. -/
def ofJson? (value : Json) : Option Member := do
  match ← value.fields? fieldNames with
  | [session, group, role, preferredModel, persona] =>
    return {
      session := ← Json.required? Json.text? session
      group := ← Json.required? Id.ofJson? group
      role := ← Json.orDefault? (Json.choice? MemberRole.names) .worker role
      preferredModel := ← Json.optional? Json.text? preferredModel
      persona := ← Json.optional? Json.text? persona }
  | _ => none

/-- The document of a member. -/
def toJson (m : Member) : Json :=
  .record <|
    [("session", .str m.session), ("group_id", m.group.toJson), ("role", .str m.role.name)] ++
    Json.optionalMember "preferred_model" .str m.preferredModel ++
    Json.optionalMember "persona" .str m.persona

end Member

namespace Group

/-- The names of the fields of a group. -/
def fieldNames : List String :=
  ["id", "name", "is_multi_agent", "mode", "orchestrator_prompt", "default_orchestrator_model",
    "default_worker_model", "reflection", "repository_id", "created_at"]

/-- Reads a group; an identifier missing from its cycle is taken to be `fresh`. -/
def ofJson? (fresh : Id) (now : Timestamp) (value : Json) : Option Group := do
  match ← value.fields? fieldNames with
  | [id, name, isMultiAgent, mode, orchestratorPrompt, orchestratorModel, workerModel, reflection,
      repository, createdAt] =>
    return {
      id := ← Json.required? Id.ofJson? id
      name := ← Json.required? Json.text? name
      isMultiAgent := ← Json.orDefault? Json.bool? false isMultiAgent
      mode := ← Json.orDefault? (Json.choice? GroupMode.names) .broadcast mode
      orchestratorPrompt := ← Json.optional? Json.text? orchestratorPrompt
      orchestratorModel := ← Json.optional? Json.text? orchestratorModel
      workerModel := ← Json.optional? Json.text? workerModel
      reflection := ← Json.optional? (Reflection.Cycle.ofJson? fresh now) reflection
      repository := ← Json.optional? Json.text? repository
      createdAt := ← Json.orDefault? Timestamp.ofJson? now createdAt }
  | _ => none

/-- Reads groups; the cycle of the group at place `i` may take the identifier at `start + i`. -/
def listOfJson? (fresh : Nat → Id) (now : Timestamp) : Nat → List Json → Option (List Group)
  | _, [] => some []
  | start, value :: rest => do
    let group ← ofJson? (fresh start) now value
    let groups ← listOfJson? fresh now (start + 1) rest
    return group :: groups

/-- The document of a group. -/
def toJson (g : Group) : Json :=
  .record <|
    [("id", g.id.toJson), ("name", .str g.name), ("is_multi_agent", .bool g.isMultiAgent),
      ("mode", .str g.mode.name)] ++
    Json.optionalMember "orchestrator_prompt" .str g.orchestratorPrompt ++
    Json.optionalMember "default_orchestrator_model" .str g.orchestratorModel ++
    Json.optionalMember "default_worker_model" .str g.workerModel ++
    Json.optionalMember "reflection" Reflection.Cycle.toJson g.reflection ++
    Json.optionalMember "repository_id" .str g.repository ++
    [("created_at", g.createdAt.toJson)]

end Group

namespace Organization

/-- The names of the fields of an organization. -/
def fieldNames : List String := ["groups", "members"]

/-- Reads an organization; `fresh` supplies the identifiers that cycles lack. -/
def ofJson? (fresh : Nat → Id) (now : Timestamp) (value : Json) : Option Organization := do
  let groups? : Json → Option (List Group)
    | .array items => Group.listOfJson? fresh now 0 items
    | _ => none
  match ← value.fields? fieldNames with
  | [groups, members] =>
    return {
      groups := ← Json.orDefault? groups? [] groups
      members := ← Json.orDefault? (Json.list? Member.ofJson?) [] members }
  | _ => none

/-- The document of an organization. -/
def toJson (o : Organization) : Json :=
  .record [
    ("groups", .array (o.groups.map Group.toJson)),
    ("members", .array (o.members.map Member.toJson))]

end Organization

end Ensemble
