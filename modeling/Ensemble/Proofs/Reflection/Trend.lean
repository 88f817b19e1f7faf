import Ensemble.Proofs.Number.Difference
import Ensemble.Proofs.Reflection.Reached

/-!
# Trends of scores

The trend of a history compares the change from the last score but one to the last with a threshold
and with its negative.  Rounding keeps the sign of a change and treats both signs alike, so with a
threshold that is not negative a rise and the fall back are judged alike, and a score that stays is
stable.  With a negative threshold every score that stays is an improvement; and since no check of
the settings looks at the threshold of the trend, such settings are accepted
(`trends_mirrored_iff`, `staying_score_improving`).

Whatever the threshold is, a trend is degrading only if the score went down.  So an agent is told
that the quality dropped only when it did (`Cycle.Explains`).
-/

namespace Ensemble.Reflection

open Binary64 (roundedRank roundedRank_neg)

/-- A score as it is kept: a number from zero to one. -/
structure IsScore (x : Binary64) : Prop where
  low : Binary64.zero.le x = true
  high : x.le .one = true

/-- A score is finite. -/
theorem IsScore.isFinite {x : Binary64} (h : IsScore x) : x.isFinite = true :=
  Binary64.isFinite_of_share h.low h.high

/-- Whatever is clamped is a score. -/
theorem isScore_clampScore (score : Binary64) : IsScore (clampScore score) :=
  ⟨(clampScore_share score).1, (clampScore_share score).2⟩

/-! ## The last change -/

section Change

variable (earlier : List Binary64) {a b threshold : Binary64} {r s t : Int}

/-- Only the last two scores matter. -/
theorem trendOf_append_pair (a b threshold : Binary64) :
    trendOf (earlier ++ [a, b]) threshold =
      if threshold.lt (b.sub a) then .improving
      else if (b.sub a).lt threshold.neg then .degrading
      else .stable := by
  simp [trendOf]

/-- The trend in terms of the places of the scores and of the threshold. -/
theorem trendOf_of_rank? (isScore : IsScore a) (isScore' : IsScore b) (ha : a.rank? = some r)
    (hb : b.rank? = some s) (ht : threshold.rank? = some t) :
    trendOf (earlier ++ [a, b]) threshold =
      if t < roundedRank (s - r) then .improving
      else if roundedRank (s - r) < -t then .degrading
      else .stable := by
  have change := Binary64.rank?_sub isScore'.isFinite isScore.isFinite hb ha
  simp only [trendOf_append_pair, Binary64.lt_iff_of_rank? ht change,
    Binary64.lt_iff_of_rank? change (Binary64.rank?_neg_of_rank? ht)]

/-- To an undefined threshold nothing is a trend. -/
theorem trendOf_nan (scores : List Binary64) : trendOf scores .nan = .stable := by
  unfold trendOf
  split
  next => simp [Binary64.neg, Binary64.lt_nan_right]
  next => rfl

/-- The score went down if the trend is degrading, whatever the threshold is. -/
theorem lt_of_degrading (isScore : IsScore a) (isScore' : IsScore b)
    (degrading : trendOf (earlier ++ [a, b]) threshold = .degrading) : b.lt a = true := by
  obtain ⟨r, ha⟩ := Binary64.exists_rank? isScore.isFinite
  obtain ⟨s, hb⟩ := Binary64.exists_rank? isScore'.isFinite
  rw [Binary64.lt_iff_of_rank? hb ha]
  cases ht : threshold.rank? with
  | none =>
    rw [Binary64.rank?_eq_none_iff.1 ht, trendOf_nan] at degrading
    cases degrading
  | some t =>
    rw [trendOf_of_rank? earlier isScore isScore' ha hb ht] at degrading
    -- only a difference below zero counts as degrading, whatever the threshold
    have fell : roundedRank (s - r) < 0 := by
      split at degrading
      next => cases degrading
      next notRisen =>
        split at degrading
        next => omega
        next => cases degrading
    have := Binary64.neg_of_roundedRank_neg fell
    omega

end Change

/-! ## Thresholds -/

/-- Trends to a threshold are mirrored: what is an improvement one way is a loss the other way, and
a score that stays is stable. -/
structure Mirrored (threshold : Binary64) : Prop where
  mirror : ∀ earlier earlier' a b, IsScore a → IsScore b →
    (trendOf (earlier ++ [a, b]) threshold = .improving ↔
      trendOf (earlier' ++ [b, a]) threshold = .degrading)
  stays : ∀ earlier a b, IsScore a → IsScore b → a.rank? = b.rank? →
    trendOf (earlier ++ [a, b]) threshold = .stable

/-- Trends are mirrored exactly if the threshold is not negative. -/
theorem mirrored_iff (threshold : Binary64) :
    Mirrored threshold ↔ threshold.lt .zero = false := by
  constructor
  · intro mirrored
    rw [← Bool.not_eq_true]
    intro negative
    have zero : IsScore .zero := ⟨Binary64.zero_share.1, Binary64.zero_share.2⟩
    have unchanged : Binary64.zero.sub .zero = .zero := rfl
    -- below zero, equal scores would be improving
    have stays := mirrored.stays [] .zero .zero zero zero rfl
    rw [trendOf_append_pair, unchanged, if_pos negative] at stays
    cases stays
  · intro nonneg
    cases ht : threshold.rank? with
    | none =>
      obtain rfl := Binary64.rank?_eq_none_iff.1 ht
      refine ⟨fun earlier earlier' a b _ _ => ?_, fun earlier a b _ _ _ => trendOf_nan _⟩
      rw [trendOf_nan, trendOf_nan]
      exact iff_of_false nofun nofun
    | some t =>
      have le : 0 ≤ t := by
        have zero : Binary64.zero.rank? = some 0 := rfl
        rw [← Bool.not_eq_true, Binary64.lt_iff_of_rank? ht zero] at nonneg
        omega
      constructor
      · intro earlier earlier' a b isScore isScore'
        obtain ⟨r, ha⟩ := Binary64.exists_rank? isScore.isFinite
        obtain ⟨s, hb⟩ := Binary64.exists_rank? isScore'.isFinite
        -- the two differences round to opposite numbers, so one rises as the other falls
        have opposite : roundedRank (r - s) = -roundedRank (s - r) := by
          rw [← roundedRank_neg, Int.neg_sub]
        rw [trendOf_of_rank? earlier isScore isScore' ha hb ht,
          trendOf_of_rank? earlier' isScore' isScore hb ha ht, opposite]
        by_cases rises : t < roundedRank (s - r)
        · rw [if_pos rises, if_neg (by omega), if_pos (by omega)]
          exact iff_of_true rfl rfl
        · rw [if_neg rises, if_neg (show ¬ -roundedRank (s - r) < -t by omega)]
          constructor
          · intro improving
            split at improving <;> cases improving
          · intro degrading
            split at degrading <;> cases degrading
      · intro earlier a b isScore isScore' same
        obtain ⟨r, ha⟩ := Binary64.exists_rank? isScore.isFinite
        have hb : b.rank? = some r := same ▸ ha
        rw [trendOf_of_rank? earlier isScore isScore' ha hb ht, Int.sub_self,
          Binary64.roundedRank_zero, if_neg (by omega), if_neg (by omega)]

/-! ## What a cycle tells its agent -/

namespace Cycle

/-- The adjustments that the history of a cycle bears out: that the quality dropped, only if a score
went down from one evaluation to the next. -/
inductive Explains (c : Cycle) : String → Prop
  | stall : c.Explains stallAdjustment
  | retry : c.Explains retryAdjustment
  | dropped {previous score : Binary64}
      (next : [previous, clampScore score] <:+: c.history.map (·.score))
      (fell : (clampScore score).lt previous = true) :
      c.Explains (qualityAdjustment previous score)

/-- A longer history bears out what a shorter one does. -/
theorem Explains.mono {c c' : Cycle} {adjustment : String} (explains : c.Explains adjustment)
    (longer : c.history <+: c'.history) : c'.Explains adjustment := by
  cases explains with
  | stall => exact .stall
  | retry => exact .retry
  | dropped next fell => exact .dropped (next.trans (longer.map _).isInfix) fell

/-- The scores of a cycle are scores, and its history bears out what its agent is to be told. -/
structure Candid (c : Cycle) : Prop where
  scores : ∀ r ∈ c.history, IsScore r.score
  adjustments : ∀ adjustment ∈ c.adjustments, c.Explains adjustment

namespace Candid

variable {c : Cycle}

/-- A step that leaves the history alone may add what is true of any cycle. -/
theorem step {c' : Cycle} (candid : c.Candid) (history : c'.history = c.history)
    (adjustments : ∀ adjustment ∈ c'.adjustments, adjustment ∈ c.adjustments ∨
      adjustment = stallAdjustment ∨ adjustment = retryAdjustment) : c'.Candid where
  scores := by
    rw [history]
    exact candid.scores
  adjustments := fun adjustment mem => by
    rcases adjustments adjustment mem with before | rfl | rfl
    · exact (candid.adjustments adjustment before).mono (history ▸ List.prefix_rfl)
    · exact .stall
    · exact .retry

/-- A step that changes neither the history nor the adjustments. -/
theorem same {c' : Cycle} (candid : c.Candid) (history : c'.history = c.history)
    (adjustments : c'.adjustments = c.adjustments) : c'.Candid :=
  candid.step history fun _ mem => .inl (adjustments ▸ mem)

/-- Beginning an iteration leaves a cycle candid. -/
theorem begin (candid : c.Candid) : c.begin.Candid := by
  rw [Cycle.begin]
  split
  · exact candid.same rfl rfl
  · exact candid

/-- Charging the budget leaves a cycle candid. -/
theorem chargeBudget (candid : c.Candid) (now : Timestamp) : (c.chargeBudget now).2.Candid := by
  rw [Cycle.chargeBudget]
  split
  · exact candid.same rfl rfl
  · exact candid

/-- An adjustment that is true of any cycle may come with a stall. -/
theorem countStall (candid : c.Candid) {adjustment : String}
    (general : adjustment = stallAdjustment ∨ adjustment = retryAdjustment) (now : Timestamp) :
    (c.countStall adjustment now).2.Candid := by
  rcases Nat.lt_or_ge (c.nextStall) c.stallThreshold with few | last
  · rw [countStall_of_few few]
    refine candid.step rfl fun other mem => (List.mem_append.1 mem).imp_right fun added => ?_
    rwa [List.mem_singleton.1 added]
  · rw [countStall_of_last last]
    exact candid.same rfl rfl

/-- Settling an iteration leaves a cycle candid: the advice it gives on stalls explains itself. -/
theorem settle (candid : c.Candid) (response : String) (goalMet : Bool) (now : Timestamp) :
    (c.settle response goalMet now).2.Candid := by
  cases goalMet with
  | true => exact candid.same rfl rfl
  | false =>
    cases stall : c.isStall response with
    | false =>
      rw [settle_of_progress stall]
      refine chargeBudget ?_ now
      exact candid.same rfl rfl
    | true =>
      -- only a stall that leaves the cycle running adds advice
      rcases Nat.lt_or_ge (c.nextStall) c.stallThreshold with few | last
      · rw [settle_of_stall stall few]
        refine chargeBudget ?_ now
        refine candid.step rfl fun adjustment mem => (List.mem_append.1 mem).imp_right ?_
        exact fun added => .inl (List.mem_singleton.1 added)
      · rw [settle_of_lastStall stall last]
        exact candid.same rfl rfl

/-- Concluding an iteration leaves a cycle candid. -/
theorem conclude (candid : c.Candid) (response : String) (now : Timestamp) :
    (c.conclude response now).2.Candid := by
  rw [Cycle.conclude]
  split
  · exact candid.settle response _ now
  · exact candid

/-- Recording a score leaves a cycle candid, as the score is clamped. -/
theorem record (candid : c.Candid) (score : Binary64) (rationale : String)
    (model : Option String) (now : Timestamp) :
    (c.record score rationale model now).Candid where
  scores := List.forall_mem_append.2
    ⟨candid.scores, List.forall_mem_singleton.2 (isScore_clampScore score)⟩
  adjustments := fun adjustment mem =>
    (candid.adjustments adjustment mem).mono (List.prefix_append _ _)

/-- That the quality dropped may be told after a degrading trend. -/
theorem adjust_of_degrading (candid : c.Candid) {previous score : Binary64}
    (earlier : List Binary64)
    (history : c.history.map (·.score) = earlier ++ [previous, clampScore score])
    (degrading : c.trend = .degrading) : (c.adjust (qualityAdjustment previous score)).Candid where
  scores := candid.scores
  adjustments := by
    have isScore : ∀ x ∈ c.history.map (·.score), IsScore x := List.forall_mem_map.2 candid.scores
    rw [history] at isScore
    rw [trend, history] at degrading
    -- the trend is told of the last two scores, and these are in the advice
    have fell := lt_of_degrading earlier (isScore previous (by simp))
      (isScore (clampScore score) (by simp)) degrading
    have next : [previous, clampScore score] <:+: c.history.map (·.score) :=
      history ▸ (List.suffix_append earlier _).isInfix
    have same {adjustment : String} (explains : c.Explains adjustment) :
        (c.adjust (qualityAdjustment previous score)).Explains adjustment :=
      explains.mono List.prefix_rfl
    exact List.forall_mem_append.2 ⟨fun adjustment mem => same (candid.adjustments adjustment mem),
      List.forall_mem_singleton.2 (same (.dropped next fell))⟩

/-- An evaluated response adds that the quality dropped only if the score went down. -/
theorem concludeWith (candid : c.Candid) (response : String) (evaluation : Evaluation)
    (model : Option String) (now : Timestamp) :
    (c.concludeWith response evaluation model now).2.Candid := by
  cases active : c.isActive with
  | false =>
    rw [concludeWith_of_inactive active]
    exact candid
  | true =>
    have recorded := candid.record evaluation.score evaluation.rationale model now
    rw [Cycle.concludeWith, if_pos active]
    refine settle ?_ ..
    -- The adjustment for a falling trend is the only one that depends on the scores.
    split
    next previous degrading last =>
      obtain ⟨r, isLast, rfl⟩ := Option.map_eq_some_iff.1 last
      obtain ⟨before, history⟩ := List.getLast?_eq_some_iff.1 isLast
      refine adjust_of_degrading ?_ (before.map (·.score)) ?_ degrading
      · exact recorded.same rfl rfl
      · simp [Cycle.record, history]
    next => exact recorded.same rfl rfl

/-- Giving an iteration back leaves a cycle candid. -/
theorem retry (candid : c.Candid) (now : Timestamp) : (c.retry now).2.Candid := by
  rw [Cycle.retry]
  split
  · refine countStall ?_ (.inr rfl) now
    exact candid.same rfl rfl
  · exact candid

/-- Every operation leaves a cycle candid. -/
theorem perform (candid : c.Candid) (op : Operation) : (c.perform op).2.Candid := by
  cases op with
  | begin => exact candid.begin
  | conclude response now => exact candid.conclude response now
  | concludeWith response evaluation model now =>
    exact candid.concludeWith response evaluation model now
  | advance response now => exact candid.begin.conclude response now
  | advanceWith response evaluation model now =>
    exact candid.begin.concludeWith response evaluation model now
  | retry now => exact candid.retry now
  | record score rationale model now => exact candid.record score rationale model now
  | takeAdjustments => exact candid.step rfl nofun
  | resume => exact candid.same rfl rfl
  | pause =>
    rw [Cycle.perform, pause]
    split
    · exact candid.same rfl rfl
    · exact candid
  | stop now =>
    rw [Cycle.perform, stop]
    split
    · exact candid.same rfl rfl
    · exact candid

end Candid

/-- Every cycle that settings lead to tells its agent what its history bears out. -/
theorem Reached.candid {settings : ReflectionSettings} {c : Cycle} (h : Reached settings c) :
    c.Candid := by
  induction h with
  | ofSettings id goal now => exact ⟨nofun, nofun⟩
  | withStallThreshold _ _ ih | withEvaluator _ _ ih | setRubric _ _ ih => exact ih.same rfl rfl
  | perform _ op ih => exact ih.perform op

end Cycle

/--
For settings that are accepted, trends are mirrored exactly if the threshold of the trend is not
negative.  Whatever it is, the scores of every cycle that the settings lead to are numbers from zero
to one, its trend is that of its scores to this threshold, and its agent is told that the quality
dropped only where a score went down.
-/
theorem trends_mirrored_iff {settings : ReflectionSettings} (accepted : settings.Accepted) :
    (Mirrored settings.trendThreshold ↔ settings.trendThreshold.lt .zero = false) ∧
      ∀ c, Cycle.Reached settings c →
        (∀ r ∈ c.history, IsScore r.score) ∧
          c.trend = trendOf (c.history.map (·.score)) settings.trendThreshold ∧
          ∀ adjustment ∈ c.adjustments, c.Explains adjustment := by
  refine ⟨mirrored_iff _, fun c reached => ⟨reached.candid.scores, ?_, reached.candid.adjustments⟩⟩
  rw [Cycle.trend, (reached.sound accepted).trendThreshold]

/-- With the settings that hold unless others are chosen, a score that falls from one to zero is
degrading, the rise back is improving, and what the agent is told after the fall is borne out. -/
theorem default_trends_mirrored :
    let settings := ReflectionSettings.default
    let now : Timestamp := ⟨0, 0⟩
    let evaluated (score : Binary64) (response : String) : Cycle.Operation :=
      .advanceWith response ⟨score, false, "More tests"⟩ none now
    let c := (Cycle.ofSettings ⟨1⟩ "Ship it" settings now |>.perform (evaluated .one "First")).2
      |>.perform (evaluated .zero "Second") |>.2
    settings.Accepted ∧ c.Reached settings ∧ c.trend = .degrading ∧
      trendOf [.zero, .one] settings.trendThreshold = .improving ∧ c.adjustments ≠ [] ∧
      ∀ adjustment ∈ c.adjustments, c.Explains adjustment := by
  intro settings now evaluated c
  have accepted : settings.Accepted := ⟨by decide +kernel, by decide, by decide⟩
  have reached : c.Reached settings :=
    .perform (.perform (.ofSettings ⟨1⟩ "Ship it" now) (evaluated .one "First"))
      (evaluated .zero "Second")
  obtain ⟨mirrored, cycles⟩ := trends_mirrored_iff accepted
  obtain ⟨scores, trend, explained⟩ := cycles c reached
  have degrading : c.trend = .degrading := by decide +kernel
  have scored : c.history.map (·.score) = [] ++ [.one, .zero] := by decide +kernel
  rw [scored] at trend
  refine ⟨accepted, reached, degrading, ?_, by decide +kernel, explained⟩
  refine ((mirrored.2 (by decide +kernel)).mirror [] [] .zero .one ⟨?_, ?_⟩ ⟨?_, ?_⟩).2 ?_
  · exact Binary64.zero_share.1
  · exact Binary64.zero_share.2
  · exact Binary64.one_share.1
  · exact Binary64.one_share.2
  · exact trend.symm.trans degrading

/-- Settings with a negative threshold of the trend are accepted.  In a cycle made from them, a
score that stays is an improvement, and so are a small rise and the fall back. -/
theorem staying_score_improving :
    let settings := { ReflectionSettings.default with trendThreshold := .ofDecimal true 1 (-1) }
    let now : Timestamp := ⟨0, 0⟩
    let half : Binary64 := .ofDecimal false 5 (-1)
    let more : Binary64 := .ofDecimal false 55 (-2)
    let c := (Cycle.ofSettings ⟨1⟩ "Ship it" settings now).record half "" none now
    settings.Accepted ∧ (c.record half "" none now).trend = .improving ∧
      (c.record more "" none now).trend = .improving ∧
      ((c.record more "" none now).record half "" none now).trend = .improving := by
  intro settings now half more c
  exact ⟨⟨by decide +kernel, by decide, by decide⟩, by decide +kernel, by decide +kernel,
    by decide +kernel⟩

end Ensemble.Reflection
