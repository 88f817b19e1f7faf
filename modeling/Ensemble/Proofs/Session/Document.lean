import Ensemble.Proofs.Json.Extension
import Ensemble.Session.Document

/-!
# Sessions read back

A session is recovered from every extension of its document, if its counts fit into the words that
hold them and its times read back.  That a time reads back from its text is left as a condition on
that time (`Timestamp.ReadsBack`).
-/

namespace Ensemble

open Json

/-! ## Times -/

/-- A time that its text gives back. -/
def Timestamp.ReadsBack (t : Timestamp) : Prop :=
  Timestamp.ofJson? t.toJson = some t

instance (t : Timestamp) : Decidable t.ReadsBack :=
  inferInstanceAs (Decidable (Timestamp.ofJson? t.toJson = some t))

/-- A time that reads back is recovered. -/
theorem Timestamp.ReadsBack.recovers {t : Timestamp} (h : t.ReadsBack) :
    Recovers .plain Timestamp.toJson Timestamp.ofJson? t :=
  recovers_plain h

/-- The document of a time is well formed. -/
@[simp] theorem Timestamp.wellFormed_toJson (t : Timestamp) : t.toJson.WellFormed :=
  wellFormed_str t.text

/-! ## Entries -/

namespace Entry

/-- An entry is a record without records in it. -/
def shape : Json.Shape :=
  .record fieldNames fun _ => .plain

/-- The fields of an entry in its document. -/
theorem toJson_eq (e : Entry) : e.toJson = .record (present [
    ("role", some (.str e.role.name)),
    ("content", some (.str e.content)),
    ("tool_name", e.toolName.map .str),
    ("timestamp", some e.timestamp.toJson)]) := by
  simp only [toJson, present_some, present_map, present_nil, List.cons_append,
    List.nil_append]

/-- An entry is recovered from every extension of its document. -/
theorem recovers {e : Entry} (h : e.timestamp.ReadsBack) : Recovers shape toJson ofJson? e := by
  intro w hw
  rw [toJson_eq] at hw
  obtain ⟨found, hfields, hfound⟩ := fields?_of_extends hw rfl (by decide)
  simp only [List.forall_mem_cons] at hfound
  obtain ⟨role, content, toolName, timestamp, -⟩ := hfound
  refine bind_eq hfields ?_
  simp only [fieldNames, List.map_cons, List.map_nil]
  refine bind_eq (required?_eq (recovers_choice (Role.lookup_name _)) role) ?_
  refine bind_eq (required?_eq (recovers_str _) content) ?_
  refine bind_eq (optional?_eq (fun s _ => recovers_str s) rfl toolName) ?_
  refine bind_eq (required?_eq h.recovers timestamp) ?_
  rfl

/-- The document of an entry is well formed. -/
theorem wellFormed_toJson (e : Entry) : e.toJson.WellFormed := by
  rw [toJson_eq]
  exact wellFormed_present (by simp)

/-- The document of an entry is an extension of itself. -/
theorem extends_toJson (e : Entry) : Extends shape e.toJson e.toJson := by
  rw [toJson_eq]
  exact extends_present (by simp)

end Entry

/-! ## Sessions -/

namespace Session

/-- The entries of a session are records. -/
def shape : Json.Shape :=
  .record fieldNames fun name =>
    if name = "transcript" then .list Entry.shape
    else if name = "queue" then .list .plain
    else .plain

/-- A session whose counts fit into their words and whose times read back. -/
structure Storable (s : Session) : Prop where
  transcript : ∀ e ∈ s.transcript, e.timestamp.ReadsBack
  startedAt : ∀ t ∈ s.startedAt, t.ReadsBack
  activeTools : s.activeTools ≤ maxWord32
  generation : s.generation ≤ maxWord64
  createdAt : s.createdAt.ReadsBack
  lastActive : s.lastActive.ReadsBack

/-- The fields of a session in its document. -/
theorem toJson_eq (s : Session) : s.toJson = .record (present [
    ("name", some (.str s.name)),
    ("model", some (.str s.model)),
    ("transcript", some (.array (s.transcript.map Entry.toJson))),
    ("queue", some (.array (s.queue.map .str))),
    ("is_processing", some (.bool s.isProcessing)),
    ("processing_started_at", some ((s.startedAt.map Timestamp.toJson).getD .null)),
    ("active_tool_calls", some (.nat s.activeTools)),
    ("has_used_tools_this_turn", some (.bool s.usedTools)),
    ("is_resumed", some (.bool s.isResumed)),
    ("generation", some (.nat s.generation)),
    ("pending_content", some (.str s.pendingContent)),
    ("pending_reasoning", some (.str s.pendingReasoning)),
    ("turn_response", some (.str s.turnResponse)),
    ("created_at", some s.createdAt.toJson),
    ("last_active", some s.lastActive.toJson)]) := rfl

/-- A session is recovered from every extension of its document. -/
theorem recovers {s : Session} (h : s.Storable) : Recovers shape toJson ofJson? s := by
  intro w hw
  rw [toJson_eq] at hw
  obtain ⟨found, hfields, hfound⟩ := fields?_of_extends hw rfl (by decide)
  simp only [List.forall_mem_cons, String.reduceEq, if_false, if_true] at hfound
  obtain ⟨name, model, transcript, queue, isProcessing, startedAt, activeTools, usedTools,
    isResumed, generation, pendingContent, pendingReasoning, turnResponse, createdAt, lastActive,
    -⟩ := hfound
  have hentries : ∀ e ∈ s.transcript, Recovers Entry.shape Entry.toJson Entry.ofJson? e :=
    fun e he => Entry.recovers (h.transcript e he)
  refine bind_eq hfields ?_
  simp only [fieldNames, List.map_cons, List.map_nil]
  refine bind_eq (required?_eq (recovers_str _) name) ?_
  refine bind_eq (required?_eq (recovers_str _) model) ?_
  refine bind_eq (orDefault?_eq (recovers_list hentries) _ transcript) ?_
  refine bind_eq (orDefault?_eq (recovers_strs _) _ queue) ?_
  refine bind_eq (orDefault?_eq (recovers_bool _) _ isProcessing) ?_
  refine bind_eq (nullable_eq (fun t ht => (h.startedAt t ht).recovers) rfl startedAt) ?_
  refine bind_eq (orDefault?_eq (recovers_nat h.activeTools) _ activeTools) ?_
  refine bind_eq (orDefault?_eq (recovers_bool _) _ usedTools) ?_
  refine bind_eq (orDefault?_eq (recovers_bool _) _ isResumed) ?_
  refine bind_eq (orDefault?_eq (recovers_nat h.generation) _ generation) ?_
  refine bind_eq (orDefault?_eq (recovers_str _) _ pendingContent) ?_
  refine bind_eq (orDefault?_eq (recovers_str _) _ pendingReasoning) ?_
  refine bind_eq (orDefault?_eq (recovers_str _) _ turnResponse) ?_
  refine bind_eq (required?_eq h.createdAt.recovers createdAt) ?_
  refine bind_eq (required?_eq h.lastActive.recovers lastActive) ?_
  rfl

/-- The document of a session is well formed. -/
theorem wellFormed_toJson (s : Session) : s.toJson.WellFormed := by
  rw [toJson_eq]
  have hentries : (array (s.transcript.map Entry.toJson)).WellFormed :=
    wellFormed_list Entry.wellFormed_toJson s.transcript
  have hstarted : ((s.startedAt.map Timestamp.toJson).getD .null).WellFormed := by
    rcases s.startedAt with - | t
    · exact .null
    · exact t.wellFormed_toJson
  exact wellFormed_present (by simp [hentries, hstarted])

/-- The document of a session is an extension of itself. -/
theorem extends_toJson (s : Session) : Extends shape s.toJson s.toJson := by
  rw [toJson_eq]
  have hentries := extends_list Entry.extends_toJson s.transcript
  exact extends_present (by simp [hentries])

end Session

end Ensemble
