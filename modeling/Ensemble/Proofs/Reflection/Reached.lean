import Ensemble.Proofs.Coordination.Lane
import Ensemble.Proofs.Number
import Ensemble.Proofs.Reflection.Document
import Ensemble.Proofs.Reflection.Lifecycle
import Ensemble.Proofs.Reflection.Verdict
import Mathlib.Data.List.Perm.Subperm

/-!
# Cycles that settings lead to

A cycle is made from settings that were checked, may be given an evaluator, criteria and a stall
threshold of its own, and is then worked on.  Whatever is done to it, its counts fit into the words
that hold them and all its floating-point numbers are finite, with one exception: the threshold of
the trend is taken from the settings as it is, and no check looks at it.  If that threshold is
finite, the cycle can be stored (`Sound.storable`).
-/

namespace Ensemble

/-- The largest count is not zero. -/
theorem maxWord32_pos : 0 < maxWord32 := by decide

/-! ## Settings -/

namespace ReflectionSettings

/-- The settings are accepted exactly if there is an iteration and a stall to count, and similarity
and score are shares of one; the threshold of the trend does not matter. -/
theorem check_eq_ok_iff (s : ReflectionSettings) :
    s.check = .ok () ↔
      0 < s.maxIterations ∧ 0 < s.stallThreshold ∧
        (Binary64.zero.lt s.stallSimilarity = true ∧ s.stallSimilarity.le .one = true) ∧
        Binary64.zero.le s.passScore = true ∧ s.passScore.le .one = true := by
  have passes {bad : Bool} {failure : Failure} {rest : Attempt Unit} :
      (if bad then .error failure else rest) = .ok () ↔ bad = false ∧ rest = .ok () := by
    cases bad <;> simp
  simp only [check, passes, Nat.pos_iff_ne_zero, beq_eq_false_iff_ne, Bool.not_eq_false',
    Bool.and_eq_true, and_true, ne_eq]

/-- Settings that are accepted, with counts that fit into their words. -/
structure Accepted (s : ReflectionSettings) : Prop where
  checked : s.check = .ok ()
  maxIterations : s.maxIterations ≤ maxWord32
  stallThreshold : s.stallThreshold ≤ maxWord32

/-- Accepted settings have a finite threshold of similarity. -/
theorem Accepted.isFinite_stallSimilarity {s : ReflectionSettings} (h : s.Accepted) :
    s.stallSimilarity.isFinite = true := by
  obtain ⟨-, -, ⟨low, high⟩, -⟩ := s.check_eq_ok_iff.1 h.checked
  exact Binary64.isFinite_of_share (Binary64.le_of_lt low) high

end ReflectionSettings

namespace Reflection

/-! ## Scores and similarities -/

/-- A score that is kept is finite. -/
theorem isFinite_clampScore (score : Binary64) : (clampScore score).isFinite = true :=
  Binary64.isFinite_of_share (clampScore_share score).1 (clampScore_share score).2

/-- The words that two texts have in common are among the words of either. -/
theorem commonWords_le_distinctWords (a b : String) : commonWords a b ≤ distinctWords a b := by
  have left : commonWords a b ≤ (wordSet a).length := List.length_filter_le _ _
  have right : commonWords a b ≤ (wordSet b).length := by
    have distinct : (wordSet a).Nodup := Coordination.nodup_eraseDups _
    refine (List.subperm_of_subset (distinct.filter _) fun word mem => ?_).length_le
    exact List.contains_iff_mem.1 (List.mem_filter.1 mem).2
  simp only [distinctWords]
  omega

/-- Texts are similar to a finite degree. -/
theorem isFinite_similarity (a b : String) : (similarity a b).isFinite = true := by
  rw [similarity]
  split
  next => rfl
  next => exact Binary64.isFinite_ofRatio (commonWords_le_distinctWords a b) false

/-- A check for stalls finds a finite similarity. -/
theorem isFinite_checkStall (previous : Option String) (current : String) (threshold : Binary64) :
    (checkStall previous current threshold).similarity.isFinite = true := by
  rw [checkStall.eq_def]
  split
  next => rfl
  next =>
    split
    next => rfl
    next => exact isFinite_similarity _ _

namespace Cycle

/-! ## Cycles that are reached -/

/-- The cycles that settings lead to. -/
inductive Reached (settings : ReflectionSettings) : Cycle → Prop
  | ofSettings (id : Id) (goal : String) (now : Timestamp) :
      Reached settings (.ofSettings id goal settings now)
  | withStallThreshold {c : Cycle} (h : Reached settings c) {threshold : Nat}
      (word : threshold ≤ maxWord32) : Reached settings (c.withStallThreshold threshold)
  | withEvaluator {c : Cycle} (h : Reached settings c) (session : String) :
      Reached settings (c.withEvaluator session)
  | setRubric {c : Cycle} (h : Reached settings c) (rubric : Option String) :
      Reached settings { c with rubric }
  | perform {c : Cycle} (h : Reached settings c) (op : Operation) :
      Reached settings (c.perform op).2

/-- What holds of every cycle that settings lead to. -/
structure Sound (settings : ReflectionSettings) (c : Cycle) : Prop where
  maxIterations : c.maxIterations ≤ maxWord32
  stallThreshold : c.stallThreshold ≤ maxWord32
  currentIteration : c.currentIteration ≤ maxWord32
  consecutiveStalls : c.consecutiveStalls ≤ maxWord32
  stallSimilarity : c.stallSimilarity.isFinite = true
  trendThreshold : c.trendThreshold = settings.trendThreshold
  lastSimilarity : c.lastSimilarity.isFinite = true
  history : ∀ r ∈ c.history, r.iteration ≤ maxWord32 ∧ r.score.isFinite = true

namespace Sound

variable {settings : ReflectionSettings} {c : Cycle}

/-- A cycle is sound when it is set up from accepted settings. -/
theorem ofSettings (accepted : settings.Accepted) (id : Id) (goal : String) (now : Timestamp) :
    Sound settings (.ofSettings id goal settings now) where
  maxIterations := Nat.max_le.2 ⟨accepted.maxIterations, by decide⟩
  stallThreshold := Nat.max_le.2 ⟨accepted.stallThreshold, by decide⟩
  currentIteration := Nat.zero_le _
  consecutiveStalls := Nat.zero_le _
  stallSimilarity := accepted.isFinite_stallSimilarity
  trendThreshold := rfl
  lastSimilarity := rfl
  history := nofun

/-! ### Counts -/

/-- Finishing leaves a cycle sound. -/
theorem finish (h : Sound settings c) (now : Timestamp) : Sound settings (c.finish now) :=
  { h with }

/-- Stalls may be counted as long as their word holds them. -/
theorem count (h : Sound settings c) {stalls : Nat} (word : stalls ≤ maxWord32)
    (adjustments : List String) :
    Sound settings { c with consecutiveStalls := stalls, adjustments } :=
  { h with consecutiveStalls := word }

/-- The stall that ends a cycle is counted as well. -/
theorem stalled (h : Sound settings c) (now : Timestamp) :
    Sound settings ({ c with consecutiveStalls := c.nextStall, isStalled := true }.finish now) :=
  { h with consecutiveStalls := wrap_le _ _ }

/-- Counting a stall leaves a cycle sound. -/
theorem countStall (h : Sound settings c) (adjustment : String) (now : Timestamp) :
    Sound settings (c.countStall adjustment now).2 := by
  rcases Nat.lt_or_ge c.nextStall c.stallThreshold with few | last
  · rw [countStall_of_few few]
    exact h.count (wrap_le _ _) _
  · rw [countStall_of_last last]
    exact h.stalled now

/-! ### Iterations -/

/-- Beginning an iteration leaves a cycle sound. -/
theorem begin (h : Sound settings c) : Sound settings c.begin := by
  rw [Cycle.begin]
  split
  next => exact { h with currentIteration := wrap_le _ _ }
  next => exact h

/-- Taking note of a response leaves a cycle sound. -/
theorem answered (h : Sound settings c) (response : String) :
    Sound settings (c.answered response) :=
  { h with lastSimilarity := isFinite_checkStall _ _ _ }

/-- However a response counts, the count of stalls fits into its word. -/
theorem stallsWith_le (c : Cycle) (response : String) : c.stallsWith response ≤ maxWord32 := by
  rw [stallsWith]
  split
  next => exact wrap_le _ _
  next => exact Nat.zero_le _

/-- Settling an iteration leaves a cycle sound. -/
theorem settle (h : Sound settings c) (response : String) (goalMet : Bool) (now : Timestamp) :
    Sound settings (c.settle response goalMet now).2 := by
  have settling := c.settle_settling response goalMet now
  generalize c.settle response goalMet now = ended at settling
  have taken := h.answered response
  cases settling with
  | goalMet => exact { taken with consecutiveStalls := Nat.zero_le _ }
  | stalled => exact taken.stalled now
  | exhausted _ _ _ adjustments =>
    exact (taken.count (stallsWith_le c response) adjustments).finish now
  | continued _ _ _ adjustments => exact taken.count (stallsWith_le c response) adjustments

/-- Recording a score leaves a cycle sound, as the score is clamped. -/
theorem record (h : Sound settings c) (score : Binary64) (rationale : String)
    (model : Option String) (now : Timestamp) :
    Sound settings (c.record score rationale model now) := by
  have added : c.currentIteration ≤ maxWord32 ∧ (clampScore score).isFinite = true :=
    ⟨h.currentIteration, isFinite_clampScore score⟩
  exact { h with
    history := List.forall_mem_append.2 ⟨h.history, List.forall_mem_singleton.2 added⟩ }

/-- Concluding an iteration leaves a cycle sound. -/
theorem conclude (h : Sound settings c) (response : String) (now : Timestamp) :
    Sound settings (c.conclude response now).2 := by
  rw [Cycle.conclude]
  split
  next => exact h.settle response _ now
  next => exact h

/-- Concluding with an evaluation leaves a cycle sound. -/
theorem concludeWith (h : Sound settings c) (response : String) (evaluation : Evaluation)
    (model : Option String) (now : Timestamp) :
    Sound settings (c.concludeWith response evaluation model now).2 := by
  cases active : c.isActive with
  | false =>
    rw [concludeWith_of_inactive active]
    exact h
  | true =>
    obtain ⟨feedback, adjustments, taken⟩ :=
      concludeWith_eq_settle active response evaluation model now
    have recorded := h.record evaluation.score evaluation.rationale model now
    -- feedback and adjustments are texts, of which soundness says nothing
    have evaluated : Sound settings
        { c.record evaluation.score evaluation.rationale model now with feedback, adjustments } :=
      { recorded with }
    rw [taken]
    exact evaluated.settle response _ now

/-- Giving an iteration back leaves a cycle sound. -/
theorem retry (h : Sound settings c) (now : Timestamp) : Sound settings (c.retry now).2 := by
  have given : Sound settings { c with currentIteration := c.currentIteration - 1 } :=
    { h with currentIteration := Nat.le_trans (Nat.sub_le _ _) h.currentIteration }
  rw [Cycle.retry]
  split
  next => exact given.countStall _ now
  next => exact h

end Sound

/-! ### Operations -/

/-- An operation keeps a cycle sound. -/
theorem Sound.perform {settings : ReflectionSettings} {c : Cycle} (h : Sound settings c)
    (op : Operation) : Sound settings (c.perform op).2 := by
  cases op with
  | begin => exact h.begin
  | conclude response now => exact h.conclude response now
  | concludeWith response evaluation model now => exact h.concludeWith response evaluation model now
  | advance response now => exact h.begin.conclude response now
  | advanceWith response evaluation model now =>
    exact h.begin.concludeWith response evaluation model now
  | retry now => exact h.retry now
  | record score rationale model now => exact h.record score rationale model now
  | takeAdjustments | resume => exact { h with }
  | pause =>
    rw [Cycle.perform, pause]
    split
    next => exact { h with }
    next => exact h
  | stop now =>
    rw [Cycle.perform, stop]
    split
    next => exact h.finish now
    next => exact h

/-- Every cycle that accepted settings lead to is sound. -/
theorem Reached.sound {settings : ReflectionSettings} (accepted : settings.Accepted) {c : Cycle}
    (h : Reached settings c) : Sound settings c := by
  induction h with
  | ofSettings id goal now => exact .ofSettings accepted id goal now
  | withStallThreshold _ word ih =>
    exact { ih with stallThreshold := Nat.max_le.2 ⟨word, maxWord32_pos⟩ }
  | withEvaluator _ session ih => exact { ih with }
  | setRubric _ rubric ih => exact { ih with }
  | perform _ op ih => exact ih.perform op

/-! ## Storing cycles -/

/-- The floating-point numbers of a cycle. -/
def numbers (c : Cycle) : List Binary64 :=
  c.stallSimilarity :: c.trendThreshold :: c.lastSimilarity :: c.history.map (·.score)

/-- The times of a cycle. -/
def times (c : Cycle) : List Timestamp :=
  c.startedAt :: (c.completedAt.toList ++ c.history.map (·.recordedAt))

/-- A cycle whose finite numbers and whose times are read back from their texts. -/
structure Legible (c : Cycle) : Prop where
  numbers : ∀ x ∈ c.numbers, x.isFinite = true → x.ReadsBack
  times : ∀ t ∈ c.times, t.ReadsBack

/-- A sound cycle can be stored if the threshold of its trend is finite. -/
theorem Sound.storable {settings : ReflectionSettings} {c : Cycle} (h : Sound settings c)
    (legible : c.Legible) (finite : c.trendThreshold.isFinite = true) : c.Storable := by
  obtain ⟨numbers, times⟩ := legible
  simp only [Cycle.numbers, List.forall_mem_cons] at numbers
  simp only [Cycle.times, List.forall_mem_cons, List.forall_mem_append] at times
  -- each number is read back as it is finite, and the trend threshold is assumed to be
  obtain ⟨stallSimilarity, trendThreshold, lastSimilarity, scores⟩ := numbers
  obtain ⟨startedAt, completedAt, recordedAt⟩ := times
  exact {
    maxIterations := h.maxIterations
    currentIteration := h.currentIteration
    consecutiveStalls := h.consecutiveStalls
    stallThreshold := h.stallThreshold
    stallSimilarity := stallSimilarity h.stallSimilarity
    trendThreshold := trendThreshold finite
    lastSimilarity := lastSimilarity h.lastSimilarity
    history := fun r mem => {
      iteration := (h.history r mem).1
      score := scores r.score (List.mem_map_of_mem mem) (h.history r mem).2
      recordedAt := recordedAt r.recordedAt (List.mem_map_of_mem mem) }
    startedAt := startedAt
    completedAt := fun t mem => completedAt t (Option.mem_toList.2 mem) }

end Cycle

end Reflection

end Ensemble
