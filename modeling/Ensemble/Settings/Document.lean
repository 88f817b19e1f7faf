import Ensemble.Number.Word
import Ensemble.Settings
import Ensemble.Toml.Reader
import Ensemble.Toml.Writer

/-!
# Settings as documents

The TOML documents of settings.  Every key and every section has a default, and keys that are not
known are ignored.  A section may also be an array of its values in order, of which the last may be
left out.  Settings that are read are checked.
-/

namespace Ensemble

namespace Toml

/-- The values of the fields of a record, in the order of their names. -/
def fields? (names : List String) : Toml → Option (List (Option Toml))
  | .table _ members => some (names.map fun name => members.lookup name)
  | .array items => some ((List.range names.length).map fun i => items[i]?)
  | .tables items =>
    some ((List.range names.length).map fun i => items[i]?.map (Toml.table .header))
  | .dateTime => some (names.map fun _ => none)
  | _ => none

/-- A truth value. -/
def boolean? : Toml → Option Bool
  | .boolean value => some value
  | _ => none

/-- A natural number up to a bound. -/
def natural? (bound : Nat) : Toml → Option Nat
  | .integer value => if 0 ≤ value && value ≤ bound then some value.toNat else none
  | _ => none

/-- A floating-point number, which may be written as an integer. -/
def float? : Toml → Option Binary64
  | .float value => some value
  | .integer value => some (.ofRatio (value < 0) value.natAbs 1)
  | _ => none

/-- A field with a value to take if it is absent. -/
def orDefault? {α : Type} (read : Toml → Option α) (default : α) : Option Toml → Option α
  | none => some default
  | some value => read value

end Toml

namespace WatchdogSettings

/-- The names of the times in documents. -/
def fieldNames : List String :=
  ["check_interval_secs", "inactivity_timeout_secs", "tool_timeout_secs"]

/-- Reads the times of the watchdog. -/
def ofToml? (value : Toml) : Option WatchdogSettings := do
  let seconds? := Toml.orDefault? (Toml.natural? maxWord64)
  match ← value.fields? fieldNames with
  | [checkInterval, inactivityTimeout, toolTimeout] =>
    return {
      checkInterval := ← seconds? default.checkInterval checkInterval
      inactivityTimeout := ← seconds? default.inactivityTimeout inactivityTimeout
      toolTimeout := ← seconds? default.toolTimeout toolTimeout }
  | _ => none

/-- The section of the times of the watchdog. -/
def toSection (s : WatchdogSettings) : List (String × Toml.Setting) :=
  [("check_interval_secs", .integer s.checkInterval),
    ("inactivity_timeout_secs", .integer s.inactivityTimeout),
    ("tool_timeout_secs", .integer s.toolTimeout)]

end WatchdogSettings

namespace ReflectionSettings

/-- The names of the limits in documents. -/
def fieldNames : List String :=
  ["max_iterations", "stall_threshold", "stall_similarity", "trend_threshold", "pass_score"]

/-- Reads the limits of reflection cycles. -/
def ofToml? (value : Toml) : Option ReflectionSettings := do
  let count? := Toml.orDefault? (Toml.natural? (Nat.pow 2 32 - 1))
  let float? := Toml.orDefault? Toml.float?
  match ← value.fields? fieldNames with
  | [maxIterations, stallThreshold, stallSimilarity, trendThreshold, passScore] =>
    return {
      maxIterations := ← count? default.maxIterations maxIterations
      stallThreshold := ← count? default.stallThreshold stallThreshold
      stallSimilarity := ← float? default.stallSimilarity stallSimilarity
      trendThreshold := ← float? default.trendThreshold trendThreshold
      passScore := ← float? default.passScore passScore }
  | _ => none

/-- The section of the limits of reflection cycles. -/
def toSection (s : ReflectionSettings) : List (String × Toml.Setting) :=
  [("max_iterations", .integer s.maxIterations), ("stall_threshold", .integer s.stallThreshold),
    ("stall_similarity", .float s.stallSimilarity), ("trend_threshold", .float s.trendThreshold),
    ("pass_score", .float s.passScore)]

end ReflectionSettings

namespace Config

/-- The names of the fields of a configuration. -/
def fieldNames : List String := ["demo", "watchdog", "reflection"]

/-- Reads a configuration. -/
def ofToml? (value : Toml) : Option Config := do
  match ← value.fields? fieldNames with
  | [demo, watchdog, reflection] =>
    return {
      demo := ← Toml.orDefault? Toml.boolean? false demo
      watchdog := ← Toml.orDefault? WatchdogSettings.ofToml? .default watchdog
      reflection := ← Toml.orDefault? ReflectionSettings.ofToml? .default reflection }
  | _ => none

/-- The document of a configuration. -/
def toDocument (c : Config) : Toml.Document where
  keys := [("demo", .boolean c.demo)]
  sections := [("watchdog", c.watchdog.toSection), ("reflection", c.reflection.toSection)]

/-- Reads a configuration from the text of its document and checks it. -/
def read (text : String) : Attempt Config :=
  match (Toml.read? text).bind ofToml? with
  | none => .error .tomlDocument
  | some config =>
    match config.check with
    | .error failure => .error failure
    | .ok () => .ok config

/-- The text of the document of a configuration. -/
def write (c : Config) : Attempt String :=
  match c.toDocument.write? with
  | some text => .ok text
  | none => .error .tomlValue

end Config

end Ensemble
