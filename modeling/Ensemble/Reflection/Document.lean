import Ensemble.Reflection.Cycle
import Ensemble.Session.Document

/-!
# Reflection cycles as documents

The JSON documents of reflection cycles.  The goal and the budget must be there; an identifier and a
starting time that are missing are supplied from outside, and every other missing field has a value
that a cycle can have.  Fields that hold nothing are not written.
-/

namespace Ensemble

/-- Reads an identifier. -/
def Id.ofJson? (value : Json) : Option Id :=
  value.text?.bind fun s => Id.read? s.toList

/-- The document of an identifier. -/
def Id.toJson (id : Id) : Json :=
  .str id.text

namespace Reflection

namespace ScoreRecord

/-- The names of the fields of an evaluation. -/
def fieldNames : List String :=
  ["iteration", "score", "rationale", "evaluator_model", "recorded_at"]

/-- Reads an evaluation; a missing time is taken to be `now`. -/
def ofJson? (now : Timestamp) (value : Json) : Option ScoreRecord := do
  match ← value.fields? fieldNames with
  | [iteration, score, rationale, evaluatorModel, recordedAt] =>
    return {
      iteration := ← Json.required? (Json.natural? maxWord32) iteration
      score := ← Json.required? Json.float? score
      rationale := ← Json.orDefault? Json.text? "" rationale
      evaluatorModel := ← Json.optional? Json.text? evaluatorModel
      recordedAt := ← Json.orDefault? Timestamp.ofJson? now recordedAt }
  | _ => none

/-- The document of an evaluation. -/
def toJson (r : ScoreRecord) : Json :=
  .record <|
    [("iteration", .nat r.iteration), ("score", .float r.score), ("rationale", .str r.rationale)] ++
    Json.optionalMember "evaluator_model" .str r.evaluatorModel ++
    [("recorded_at", r.recordedAt.toJson)]

end ScoreRecord

namespace Cycle

/-- The names of the fields of a cycle. -/
def fieldNames : List String :=
  ["id", "goal", "evaluation_rubric", "max_iterations", "current_iteration", "is_active",
    "is_paused", "goal_met", "is_stalled", "consecutive_stalls", "stall_threshold",
    "stall_similarity", "trend_threshold", "last_similarity", "evaluation_history",
    "evaluator_session", "evaluator_feedback", "pending_adjustments", "last_response",
    "started_at", "completed_at"]

/-- Reads a cycle; a missing identifier is taken to be `fresh`, and a missing time `now`. -/
def ofJson? (fresh : Id) (now : Timestamp) (value : Json) : Option Cycle := do
  match ← value.fields? fieldNames with
  | [id, goal, rubric, maxIterations, currentIteration, isActive, isPaused, goalMet, isStalled,
      consecutiveStalls, stallThreshold, stallSimilarity, trendThreshold, lastSimilarity, history,
      evaluator, feedback, adjustments, lastResponse, startedAt, completedAt] =>
    let word := Json.natural? maxWord32
    return {
      id := ← Json.orDefault? Id.ofJson? fresh id
      goal := ← Json.required? Json.text? goal
      rubric := ← Json.optional? Json.text? rubric
      maxIterations := ← Json.required? word maxIterations
      currentIteration := ← Json.orDefault? word 0 currentIteration
      isActive := ← Json.orDefault? Json.bool? false isActive
      isPaused := ← Json.orDefault? Json.bool? false isPaused
      goalMet := ← Json.orDefault? Json.bool? false goalMet
      isStalled := ← Json.orDefault? Json.bool? false isStalled
      consecutiveStalls := ← Json.orDefault? word 0 consecutiveStalls
      stallThreshold :=
        ← Json.orDefault? word ReflectionSettings.defaultStallThreshold stallThreshold
      stallSimilarity :=
        ← Json.orDefault? Json.float? ReflectionSettings.defaultStallSimilarity stallSimilarity
      trendThreshold :=
        ← Json.orDefault? Json.float? ReflectionSettings.defaultTrendThreshold trendThreshold
      lastSimilarity := ← Json.orDefault? Json.float? .zero lastSimilarity
      history := ← Json.orDefault? (Json.list? (ScoreRecord.ofJson? now)) [] history
      evaluator := ← Json.optional? Json.text? evaluator
      feedback := ← Json.optional? Json.text? feedback
      adjustments := ← Json.orDefault? (Json.list? Json.text?) [] adjustments
      lastResponse := ← Json.optional? Json.text? lastResponse
      startedAt := ← Json.orDefault? Timestamp.ofJson? now startedAt
      completedAt := ← Json.optional? Timestamp.ofJson? completedAt }
  | _ => none

/-- The document of a cycle. -/
def toJson (c : Cycle) : Json :=
  .record <|
    [("id", c.id.toJson), ("goal", .str c.goal)] ++
    Json.optionalMember "evaluation_rubric" .str c.rubric ++
    [("max_iterations", .nat c.maxIterations),
      ("current_iteration", .nat c.currentIteration),
      ("is_active", .bool c.isActive),
      ("is_paused", .bool c.isPaused),
      ("goal_met", .bool c.goalMet),
      ("is_stalled", .bool c.isStalled),
      ("consecutive_stalls", .nat c.consecutiveStalls),
      ("stall_threshold", .nat c.stallThreshold),
      ("stall_similarity", .float c.stallSimilarity),
      ("trend_threshold", .float c.trendThreshold),
      ("last_similarity", .float c.lastSimilarity),
      ("evaluation_history", .array (c.history.map ScoreRecord.toJson))] ++
    Json.optionalMember "evaluator_session" .str c.evaluator ++
    Json.optionalMember "evaluator_feedback" .str c.feedback ++
    [("pending_adjustments", .array (c.adjustments.map .str))] ++
    Json.optionalMember "last_response" .str c.lastResponse ++
    [("started_at", c.startedAt.toJson)] ++
    Json.optionalMember "completed_at" Timestamp.toJson c.completedAt

end Cycle

end Reflection

end Ensemble
