import Ensemble.Failure

/-!
# Settings

What can be configured: whether to run on the echoing agent, the times of the watchdog, and the
limits of reflection cycles.  `check` says whether settings fit together; if several things are
wrong, the first one in the order of the checks is reported.
-/

namespace Ensemble

/-- The times of the watchdog, in seconds. -/
structure WatchdogSettings where
  checkInterval : Nat
  inactivityTimeout : Nat
  toolTimeout : Nat
  deriving DecidableEq, Repr

namespace WatchdogSettings

/-- The times that hold unless others are chosen. -/
def default : WatchdogSettings := ⟨15, 120, 600⟩

/-- The watchdog looks more often than the shortest timeout, and the tool timeout is the longer. -/
def check (s : WatchdogSettings) : Attempt Unit :=
  if s.checkInterval == 0 then .error (.invalid .noCheckInterval)
  else if s.inactivityTimeout ≤ s.checkInterval then
    .error (.invalid (.slowCheckInterval s.checkInterval s.inactivityTimeout))
  else if s.toolTimeout ≤ s.inactivityTimeout then
    .error (.invalid (.shortToolTimeout s.toolTimeout s.inactivityTimeout))
  else .ok ()

/-- Exactly the settings with strictly increasing positive times are accepted. -/
theorem check_eq_ok_iff (s : WatchdogSettings) :
    s.check = .ok () ↔
      0 < s.checkInterval ∧ s.checkInterval < s.inactivityTimeout ∧
        s.inactivityTimeout < s.toolTimeout := by
  unfold check
  split
  next h => simp only [beq_iff_eq] at h; simp [h]
  next h =>
    simp only [beq_iff_eq] at h
    split
    next slow => simp only [reduceCtorEq, false_iff]; omega
    next =>
      split
      next short => simp only [reduceCtorEq, false_iff]; omega
      next => simp only [true_iff]; omega

end WatchdogSettings

/-- The limits of reflection cycles. -/
structure ReflectionSettings where
  maxIterations : Nat
  /-- How many stalls in a row end a cycle. -/
  stallThreshold : Nat
  /-- The similarity above which two responses count as a stall. -/
  stallSimilarity : Binary64
  /-- The least change of the score that counts as a trend. -/
  trendThreshold : Binary64
  /-- The score from which on an evaluation passes. -/
  passScore : Binary64
  deriving DecidableEq, Repr

namespace ReflectionSettings

/-- How many stalls in a row end a cycle, unless chosen. -/
def defaultStallThreshold : Nat := 2

/-- The similarity above which two responses count as a stall, unless chosen. -/
def defaultStallSimilarity : Binary64 := .ofDecimal false 9 (-1)

/-- The least change of the score that counts as a trend, unless chosen. -/
def defaultTrendThreshold : Binary64 := .ofDecimal false 5 (-2)

/-- The limits that hold unless others are chosen. -/
def default : ReflectionSettings where
  maxIterations := 5
  stallThreshold := defaultStallThreshold
  stallSimilarity := defaultStallSimilarity
  trendThreshold := defaultTrendThreshold
  passScore := .ofDecimal false 9 (-1)

/-- There is an iteration and a stall to count, and similarity and score are shares of one. -/
def check (s : ReflectionSettings) : Attempt Unit :=
  if s.maxIterations == 0 then .error (.invalid .noIterations)
  else if s.stallThreshold == 0 then .error (.invalid .noStallThreshold)
  else if !(Binary64.zero.lt s.stallSimilarity && s.stallSimilarity.le .one) then
    .error (.invalid (.stallSimilarity s.stallSimilarity))
  else if !(Binary64.zero.le s.passScore && s.passScore.le .one) then
    .error (.invalid (.passScore s.passScore))
  else .ok ()

end ReflectionSettings

/-- All settings. -/
structure Config where
  /-- Run on the echoing agent. -/
  demo : Bool
  watchdog : WatchdogSettings
  reflection : ReflectionSettings
  deriving DecidableEq, Repr

namespace Config

/-- The settings that hold unless others are chosen. -/
def default : Config := ⟨false, .default, .default⟩

/-- Checks the times of the watchdog, and then the limits of reflection. -/
def check (c : Config) : Attempt Unit := do
  c.watchdog.check
  c.reflection.check

end Config

end Ensemble
