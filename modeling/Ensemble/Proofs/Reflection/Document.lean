import Ensemble.Proofs.Id
import Ensemble.Proofs.Session.Document
import Ensemble.Reflection.Document

/-!
# Reflection cycles read back

A cycle is recovered from every extension of its document, its evaluations included, if its counts
fit into the words that hold them and its times and floating-point numbers read back.  Numbers are
read by scaling their digits, with a rounding at each step, so that a finite number is not bound to
read back from its own text: that it does is a condition on the number (`Binary64.ReadsBack`).
Identifiers always read back.
-/

namespace Ensemble

open Json

/-- A floating-point number that its text gives back; it is finite, as others have no text. -/
def Binary64.ReadsBack (x : Binary64) : Prop :=
  Json.float? (Json.float x) = some x

instance (x : Binary64) : Decidable x.ReadsBack :=
  inferInstanceAs (Decidable (Json.float? (Json.float x) = some x))

/-- A number that reads back is recovered. -/
theorem Binary64.ReadsBack.recovers {x : Binary64} (h : x.ReadsBack) :
    Recovers .plain Json.float Json.float? x :=
  recovers_plain h

/-- An identifier is recovered. -/
theorem Id.recovers (id : Id) : Recovers .plain Id.toJson Id.ofJson? id := by
  apply recovers_plain
  rw [Id.ofJson?, Id.toJson]
  exact id.read?_text

/-- The document of an identifier is well formed. -/
@[simp] theorem Id.wellFormed_toJson (id : Id) : id.toJson.WellFormed :=
  wellFormed_str id.text

namespace Reflection

/-! ## Evaluations -/

namespace ScoreRecord

/-- An evaluation is a record without records in it. -/
def shape : Json.Shape :=
  .record fieldNames fun _ => .plain

/-- An evaluation whose count fits into its word and whose score and time read back. -/
structure Storable (r : ScoreRecord) : Prop where
  iteration : r.iteration ≤ maxWord32
  score : r.score.ReadsBack
  recordedAt : r.recordedAt.ReadsBack

/-- The fields of an evaluation in its document. -/
theorem toJson_eq (r : ScoreRecord) : r.toJson = .record (present [
    ("iteration", some (.nat r.iteration)),
    ("score", some (.float r.score)),
    ("rationale", some (.str r.rationale)),
    ("evaluator_model", r.evaluatorModel.map .str),
    ("recorded_at", some r.recordedAt.toJson)]) := by
  simp only [toJson, present_some, present_map, present_nil, List.cons_append, List.nil_append]

/-- An evaluation is recovered from every extension of its document. -/
theorem recovers {r : ScoreRecord} (h : r.Storable) (now : Timestamp) :
    Recovers shape toJson (ofJson? now) r := by
  intro w hw
  rw [toJson_eq] at hw
  obtain ⟨found, hfields, hfound⟩ := fields?_of_extends hw rfl (by decide)
  simp only [List.forall_mem_cons] at hfound
  obtain ⟨iteration, score, rationale, evaluatorModel, recordedAt, -⟩ := hfound
  refine bind_eq hfields ?_
  simp only [fieldNames, List.map_cons, List.map_nil]
  refine bind_eq (required?_eq (recovers_nat h.iteration) iteration) ?_
  refine bind_eq (required?_eq h.score.recovers score) ?_
  refine bind_eq (orDefault?_eq (recovers_str _) _ rationale) ?_
  refine bind_eq (optional?_eq (fun s _ => recovers_str s) rfl evaluatorModel) ?_
  refine bind_eq (orDefault?_eq h.recordedAt.recovers _ recordedAt) ?_
  rfl

/-- The document of an evaluation is well formed. -/
theorem wellFormed_toJson (r : ScoreRecord) : r.toJson.WellFormed := by
  rw [toJson_eq]
  exact wellFormed_present (by simp)

/-- The document of an evaluation is an extension of itself. -/
theorem extends_toJson (r : ScoreRecord) : Extends shape r.toJson r.toJson := by
  rw [toJson_eq]
  exact extends_present (by simp)

end ScoreRecord

/-! ## Cycles -/

namespace Cycle

/-- The evaluations of a cycle are records. -/
def shape : Json.Shape :=
  .record fieldNames fun name =>
    if name = "evaluation_history" then .list ScoreRecord.shape
    else if name = "pending_adjustments" then .list .plain
    else .plain

/-- A cycle whose counts fit into their words and whose numbers and times read back. -/
structure Storable (c : Cycle) : Prop where
  maxIterations : c.maxIterations ≤ maxWord32
  currentIteration : c.currentIteration ≤ maxWord32
  consecutiveStalls : c.consecutiveStalls ≤ maxWord32
  stallThreshold : c.stallThreshold ≤ maxWord32
  stallSimilarity : c.stallSimilarity.ReadsBack
  trendThreshold : c.trendThreshold.ReadsBack
  lastSimilarity : c.lastSimilarity.ReadsBack
  history : ∀ r ∈ c.history, r.Storable
  startedAt : c.startedAt.ReadsBack
  completedAt : ∀ t ∈ c.completedAt, t.ReadsBack

/-- The fields of a cycle in its document. -/
theorem toJson_eq (c : Cycle) : c.toJson = .record (present [
    ("id", some c.id.toJson),
    ("goal", some (.str c.goal)),
    ("evaluation_rubric", c.rubric.map .str),
    ("max_iterations", some (.nat c.maxIterations)),
    ("current_iteration", some (.nat c.currentIteration)),
    ("is_active", some (.bool c.isActive)),
    ("is_paused", some (.bool c.isPaused)),
    ("goal_met", some (.bool c.goalMet)),
    ("is_stalled", some (.bool c.isStalled)),
    ("consecutive_stalls", some (.nat c.consecutiveStalls)),
    ("stall_threshold", some (.nat c.stallThreshold)),
    ("stall_similarity", some (.float c.stallSimilarity)),
    ("trend_threshold", some (.float c.trendThreshold)),
    ("last_similarity", some (.float c.lastSimilarity)),
    ("evaluation_history", some (.array (c.history.map ScoreRecord.toJson))),
    ("evaluator_session", c.evaluator.map .str),
    ("evaluator_feedback", c.feedback.map .str),
    ("pending_adjustments", some (.array (c.adjustments.map .str))),
    ("last_response", c.lastResponse.map .str),
    ("started_at", some c.startedAt.toJson),
    ("completed_at", c.completedAt.map Timestamp.toJson)]) := by
  simp only [toJson, present_some, present_map, present_nil, List.append_assoc, List.cons_append,
    List.nil_append, List.append_nil]

/-- A cycle is recovered from every extension of its document. -/
theorem recovers {c : Cycle} (h : c.Storable) (fresh : Id) (now : Timestamp) :
    Recovers shape toJson (ofJson? fresh now) c := by
  intro w hw
  rw [toJson_eq] at hw
  obtain ⟨found, hfields, hfound⟩ := fields?_of_extends hw rfl (by decide)
  simp only [List.forall_mem_cons, String.reduceEq, if_false, if_true] at hfound
  obtain ⟨id, goal, rubric, maxIterations, currentIteration, isActive, isPaused, goalMet, isStalled,
    consecutiveStalls, stallThreshold, stallSimilarity, trendThreshold, lastSimilarity, history,
    evaluator, feedback, adjustments, lastResponse, startedAt, completedAt, -⟩ := hfound
  have hhistory : ∀ r ∈ c.history,
      Recovers ScoreRecord.shape ScoreRecord.toJson (ScoreRecord.ofJson? now) r :=
    fun r hr => ScoreRecord.recovers (h.history r hr) now
  refine bind_eq hfields ?_
  simp only [fieldNames, List.map_cons, List.map_nil]
  refine bind_eq (orDefault?_eq c.id.recovers _ id) ?_
  refine bind_eq (required?_eq (recovers_str _) goal) ?_
  refine bind_eq (optional?_eq (fun s _ => recovers_str s) rfl rubric) ?_
  refine bind_eq (required?_eq (recovers_nat h.maxIterations) maxIterations) ?_
  refine bind_eq (orDefault?_eq (recovers_nat h.currentIteration) _ currentIteration) ?_
  refine bind_eq (orDefault?_eq (recovers_bool _) _ isActive) ?_
  refine bind_eq (orDefault?_eq (recovers_bool _) _ isPaused) ?_
  refine bind_eq (orDefault?_eq (recovers_bool _) _ goalMet) ?_
  refine bind_eq (orDefault?_eq (recovers_bool _) _ isStalled) ?_
  refine bind_eq (orDefault?_eq (recovers_nat h.consecutiveStalls) _ consecutiveStalls) ?_
  refine bind_eq (orDefault?_eq (recovers_nat h.stallThreshold) _ stallThreshold) ?_
  refine bind_eq (orDefault?_eq h.stallSimilarity.recovers _ stallSimilarity) ?_
  refine bind_eq (orDefault?_eq h.trendThreshold.recovers _ trendThreshold) ?_
  refine bind_eq (orDefault?_eq h.lastSimilarity.recovers _ lastSimilarity) ?_
  refine bind_eq (orDefault?_eq (recovers_list hhistory) _ history) ?_
  refine bind_eq (optional?_eq (fun s _ => recovers_str s) rfl evaluator) ?_
  refine bind_eq (optional?_eq (fun s _ => recovers_str s) rfl feedback) ?_
  refine bind_eq (orDefault?_eq (recovers_strs _) _ adjustments) ?_
  refine bind_eq (optional?_eq (fun s _ => recovers_str s) rfl lastResponse) ?_
  refine bind_eq (orDefault?_eq h.startedAt.recovers _ startedAt) ?_
  refine bind_eq (optional?_eq (fun t ht => (h.completedAt t ht).recovers) rfl completedAt) ?_
  rfl

/-- The document of a cycle is well formed. -/
theorem wellFormed_toJson (c : Cycle) : c.toJson.WellFormed := by
  rw [toJson_eq]
  have hhistory : (array (c.history.map ScoreRecord.toJson)).WellFormed :=
    wellFormed_list ScoreRecord.wellFormed_toJson c.history
  exact wellFormed_present (by simp [hhistory])

/-- The document of a cycle is an extension of itself. -/
theorem extends_toJson (c : Cycle) : Extends shape c.toJson c.toJson := by
  rw [toJson_eq]
  have hhistory := extends_list ScoreRecord.extends_toJson c.history
  exact extends_present (by simp [hhistory])

end Cycle

end Reflection

end Ensemble
