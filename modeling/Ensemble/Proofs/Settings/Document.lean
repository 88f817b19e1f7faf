import Ensemble.Proofs.Reflection.Reached
import Ensemble.Proofs.Toml.Document
import Ensemble.Settings.Document

/-!
# Settings read back

A configuration that is accepted is written to a document that is read as the same configuration.
Keys and sections may be left out of the document: each value that is left out has its default
(`Config.withDefaults`), and the values that were written and the defaults are then checked
together.  So a part of a document can be refused although the whole was accepted.
-/

namespace Ensemble

open Toml (maxInteger keyMembers)

/-! ## What checks report -/

/-- Whether a check accepts, or says what is invalid. -/
def Checks (result : Attempt Unit) : Prop :=
  result = .ok () ∨ ∃ reason, result = .error (.invalid reason)

theorem Checks.ite {bad : Prop} [Decidable bad] {reason : Invalid} {rest : Attempt Unit}
    (checks : Checks rest) : Checks (if bad then .error (.invalid reason) else rest) := by
  split
  next => exact .inr ⟨reason, rfl⟩
  next => exact checks

theorem WatchdogSettings.checks (s : WatchdogSettings) : Checks s.check :=
  .ite (.ite (.ite (.inl rfl)))

theorem ReflectionSettings.checks (s : ReflectionSettings) : Checks s.check :=
  .ite (.ite (.ite (.ite (.inl rfl))))

/-- A configuration that is not accepted is invalid. -/
theorem Config.checks (c : Config) : Checks c.check := by
  rw [check]
  rcases c.watchdog.checks with accepted | ⟨reason, refused⟩
  · rw [accepted]
    exact c.reflection.checks
  · rw [refused]
    exact .inr ⟨reason, rfl⟩

theorem Config.check_eq_ok_iff (c : Config) :
    c.check = .ok () ↔ c.watchdog.check = .ok () ∧ c.reflection.check = .ok () := by
  rw [check]
  rcases c.watchdog.checks with accepted | ⟨reason, refused⟩
  · rw [accepted]
    exact (and_iff_right rfl).symm
  · rw [refused]
    exact ⟨nofun, nofun⟩

/-! ## Defaults -/

/-- The times of the watchdog, with defaults for those that are left out. -/
def WatchdogSettings.withDefaults (omitted : String → Bool) (s : WatchdogSettings) :
    WatchdogSettings where
  checkInterval :=
    if omitted "check_interval_secs" then default.checkInterval else s.checkInterval
  inactivityTimeout :=
    if omitted "inactivity_timeout_secs" then default.inactivityTimeout else s.inactivityTimeout
  toolTimeout := if omitted "tool_timeout_secs" then default.toolTimeout else s.toolTimeout

/-- The limits of reflection cycles, with defaults for those that are left out. -/
def ReflectionSettings.withDefaults (omitted : String → Bool) (s : ReflectionSettings) :
    ReflectionSettings where
  maxIterations := if omitted "max_iterations" then default.maxIterations else s.maxIterations
  stallThreshold := if omitted "stall_threshold" then default.stallThreshold else s.stallThreshold
  stallSimilarity :=
    if omitted "stall_similarity" then default.stallSimilarity else s.stallSimilarity
  trendThreshold := if omitted "trend_threshold" then default.trendThreshold else s.trendThreshold
  passScore := if omitted "pass_score" then default.passScore else s.passScore

/-- A configuration, with defaults for the keys and sections that are left out. -/
def Config.withDefaults (omitted : List String → Bool) (c : Config) : Config where
  demo := if omitted ["demo"] then default.demo else c.demo
  watchdog :=
    if omitted ["watchdog"] then default.watchdog
    else c.watchdog.withDefaults fun key => omitted ["watchdog", key]
  reflection :=
    if omitted ["reflection"] then default.reflection
    else c.reflection.withDefaults fun key => omitted ["reflection", key]

@[simp] theorem Config.withDefaults_none (c : Config) : c.withDefaults (fun _ => false) = c := rfl

/-! ## Documents of settings -/

/-- Whether the values of a configuration fit into the words that hold them. -/
structure Config.Fits (c : Config) : Prop where
  checkInterval : c.watchdog.checkInterval ≤ maxInteger
  inactivityTimeout : c.watchdog.inactivityTimeout ≤ maxInteger
  toolTimeout : c.watchdog.toolTimeout ≤ maxInteger
  maxIterations : c.reflection.maxIterations ≤ maxWord32
  stallThreshold : c.reflection.stallThreshold ≤ maxWord32
  stallSimilarity : c.reflection.stallSimilarity.IsRepresentable
  trendThreshold : c.reflection.trendThreshold.IsRepresentable
  passScore : c.reflection.passScore.IsRepresentable
  /-- No check looks at the threshold of the trend. -/
  finite : c.reflection.trendThreshold.isFinite = true

variable {c : Config}

/-- Accepted settings have a document that can be read. -/
theorem Config.isReadable_toDocument (fits : c.Fits) (accepted : c.check = .ok ()) :
    c.toDocument.IsReadable := by
  obtain ⟨-, -, ⟨low, high⟩, low', high'⟩ :=
    c.reflection.check_eq_ok_iff.1 (c.check_eq_ok_iff.1 accepted).2
  have similarity := Binary64.isFinite_of_share (Binary64.le_of_lt low) high
  have score := Binary64.isFinite_of_share low' high'
  have words : maxWord32 ≤ maxInteger := by decide
  have watchdog : Toml.AreReadable c.watchdog.toSection := by
    refine .of_names WatchdogSettings.fieldNames rfl (by decide) (by decide) ?_
    simp only [WatchdogSettings.toSection, List.forall_mem_cons]
    exact ⟨fits.checkInterval, fits.inactivityTimeout, fits.toolTimeout, nofun⟩
  have reflection : Toml.AreReadable c.reflection.toSection := by
    refine .of_names ReflectionSettings.fieldNames rfl (by decide) (by decide) ?_
    simp only [ReflectionSettings.toSection, List.forall_mem_cons]
    exact ⟨fits.maxIterations.trans words, fits.stallThreshold.trans words,
      ⟨similarity, fits.stallSimilarity⟩, ⟨fits.finite, fits.trendThreshold⟩,
      ⟨score, fits.passScore⟩, nofun⟩
  have keys : Toml.AreReadable c.toDocument.keys :=
    .of_names ["demo"] rfl (by decide) (by decide) (List.forall_mem_singleton.2 trivial)
  have bare : ∀ name ∈ ["watchdog", "reflection"], Toml.IsBare name := by decide
  refine ⟨keys, ?_, ?_, ?_⟩
  · simp only [toDocument, List.forall_mem_cons] at bare ⊢
    exact ⟨bare.1, bare.2.1, nofun⟩
  · simp only [toDocument, List.forall_mem_cons]
    exact ⟨watchdog, reflection, nofun⟩
  · show fieldNames.Nodup
    decide

/-! ## Reading -/

namespace Toml

/-- A key that is left out is read as its default, and one that is not as its value. -/
theorem orDefault?_lookup {α : Type} {read : Toml → Option α} {value : α}
    {keys : List (String × Setting)} {name : String} {setting : Setting} (default : α)
    (omitted : String → Bool) (found : (keyMembers keys).lookup name = some setting.toToml)
    (reads : read setting.toToml = some value) :
    orDefault? read default ((keyMembers (keys.filter fun key => !omitted key.1)).lookup name) =
      some (if omitted name then default else value) := by
  rw [lookup_keyMembers_filter, found]
  cases omitted name with
  | true => rfl
  | false => exact reads

theorem natural?_integer {bound n : Nat} (small : n ≤ bound) :
    natural? bound (Setting.integer n).toToml = some n := by
  rw [Setting.toToml, natural?, if_pos, Int.toNat_natCast]
  rw [Bool.and_eq_true, decide_eq_true_eq, decide_eq_true_eq]
  omega

end Toml

/-- The section of the watchdog is read with defaults for the keys that are left out. -/
theorem WatchdogSettings.ofToml?_toSection (fits : c.Fits) (omitted : String → Bool) :
    ofToml? (.table .header (keyMembers (c.watchdog.toSection.filter fun key => !omitted key.1))) =
      some (c.watchdog.withDefaults omitted) := by
  have words : maxInteger ≤ Nat.pow 2 64 - 1 := by decide
  have seconds {name : String} {n : Nat} (small : n ≤ maxInteger) (default : Nat)
      (found : (keyMembers c.watchdog.toSection).lookup name =
        some (Toml.Setting.integer n).toToml) :=
    Toml.orDefault?_lookup default omitted found (Toml.natural?_integer (small.trans words))
  exact Option.bind_eq_some_iff.2 ⟨_, seconds fits.checkInterval _ rfl,
    Option.bind_eq_some_iff.2 ⟨_, seconds fits.inactivityTimeout _ rfl,
      Option.bind_eq_some_iff.2 ⟨_, seconds fits.toolTimeout _ rfl, rfl⟩⟩⟩

/-- The section of reflection is read with defaults for the keys that are left out. -/
theorem ReflectionSettings.ofToml?_toSection (fits : c.Fits) (omitted : String → Bool) :
    ofToml? (.table .header
        (keyMembers (c.reflection.toSection.filter fun key => !omitted key.1))) =
      some (c.reflection.withDefaults omitted) := by
  -- Every key is looked up alike: as it was written, or as its default where it is omitted.
  have count {name : String} {n : Nat} (small : n ≤ maxWord32) (default : Nat)
      (found : (keyMembers c.reflection.toSection).lookup name =
        some (Toml.Setting.integer n).toToml) :=
    Toml.orDefault?_lookup default omitted found (Toml.natural?_integer small)
  have float {name : String} {x : Binary64} (default : Binary64)
      (found : (keyMembers c.reflection.toSection).lookup name =
        some (Toml.Setting.float x).toToml) :
      Toml.orDefault? Toml.float? default ((keyMembers (c.reflection.toSection.filter fun key =>
        !omitted key.1)).lookup name) = some (if omitted name then default else x) :=
    Toml.orDefault?_lookup default omitted found rfl
  exact Option.bind_eq_some_iff.2 ⟨_, count fits.maxIterations _ rfl,
    Option.bind_eq_some_iff.2 ⟨_, count fits.stallThreshold _ rfl,
      Option.bind_eq_some_iff.2 ⟨_, float _ rfl,
        Option.bind_eq_some_iff.2 ⟨_, float _ rfl,
          Option.bind_eq_some_iff.2 ⟨_, float _ rfl, rfl⟩⟩⟩⟩⟩

/-- A configuration is read with defaults for the keys and sections that are left out. -/
theorem Config.ofToml?_without (fits : c.Fits) (omitted : List String → Bool) :
    ofToml? (.table .header (c.toDocument.without omitted).members) =
      some (c.withDefaults omitted) := by
  have found := c.toDocument.lookup_without omitted
  refine Option.bind_eq_some_iff.2 ⟨if omitted ["demo"] then default.demo else c.demo, ?_,
    Option.bind_eq_some_iff.2 ⟨if omitted ["watchdog"] then default.watchdog
      else c.watchdog.withDefaults fun key => omitted ["watchdog", key], ?_,
      Option.bind_eq_some_iff.2 ⟨if omitted ["reflection"] then default.reflection
        else c.reflection.withDefaults fun key => omitted ["reflection", key], ?_, rfl⟩⟩⟩
  · dsimp only
    rw [found]
    cases omitted ["demo"] <;> rfl
  · dsimp only
    rw [found]
    cases omitted ["watchdog"] with
    | true => rfl
    | false =>
      exact WatchdogSettings.ofToml?_toSection fits fun key => omitted ["watchdog", key]
  · dsimp only
    rw [found]
    cases omitted ["reflection"] with
    | true => rfl
    | false =>
      exact ReflectionSettings.ofToml?_toSection fits fun key => omitted ["reflection", key]

/-- What is left of the document of accepted settings can be written, and is read with defaults in
the places of what was left out; these settings are then checked. -/
theorem Config.exists_write?_without (fits : c.Fits) (accepted : c.check = .ok ())
    (omitted : List String → Bool) :
    ∃ text, (c.toDocument.without omitted).write? = some text ∧
      read text = (c.withDefaults omitted).check.map fun _ => c.withDefaults omitted := by
  obtain ⟨text, written, table⟩ :=
    Toml.exists_write? ((c.isReadable_toDocument fits accepted).without omitted)
  refine ⟨text, written, ?_⟩
  rw [read, table, Option.bind_some, ofToml?_without fits omitted]
  dsimp only
  rcases (c.withDefaults omitted).checks with accepted | ⟨reason, refused⟩
  · rw [accepted]
    rfl
  · rw [refused]
    rfl

/-- Accepted settings that fit into their words are read back from their document.  Whatever keys
and sections are left out of the document, it is read as the settings with defaults in their places
if these are accepted, and otherwise refused for the reason that they are invalid. -/
theorem Config.read_write (fits : c.Fits) (accepted : c.check = .ok ()) :
    (∃ text, c.write = .ok text ∧ read text = .ok c) ∧
      ∀ omitted, ∃ text, (c.toDocument.without omitted).write? = some text ∧
        ((c.withDefaults omitted).check = .ok () ∧ read text = .ok (c.withDefaults omitted) ∨
          ∃ reason, (c.withDefaults omitted).check = .error (.invalid reason) ∧
            read text = .error (.invalid reason)) := by
  constructor
  · obtain ⟨text, written, read⟩ := exists_write?_without fits accepted fun _ => false
    rw [Toml.Document.without_none] at written
    rw [withDefaults_none, accepted] at read
    exact ⟨text, by rw [write, written], read⟩
  · -- Defaults may break a bound that two settings have between them, hence the second outcome.
    intro omitted
    obtain ⟨text, written, read⟩ := exists_write?_without fits accepted omitted
    refine ⟨text, written, ?_⟩
    rcases (c.withDefaults omitted).checks with accepted | ⟨reason, refused⟩
    · rw [accepted] at read
      exact .inl ⟨accepted, read⟩
    · rw [refused] at read
      exact .inr ⟨reason, refused, read⟩

/-- Settings with an inactivity timeout that is longer than the default tool timeout. -/
def Config.patient : Config where
  demo := true
  watchdog := ⟨5, 700, 900⟩
  reflection := { ReflectionSettings.default with maxIterations := 8, passScore := .one }

/-- Such settings are read back, also without the section of the watchdog, but not without the tool
timeout alone. -/
theorem Config.read_write_patient :
    (∃ text, patient.write = .ok text ∧ read text = .ok patient) ∧
      (∃ text, (patient.toDocument.without (· == ["watchdog"])).write? = some text ∧
        read text = .ok { patient with watchdog := .default }) ∧
      ∃ text,
        (patient.toDocument.without (· == ["watchdog", "tool_timeout_secs"])).write? = some text ∧
          read text = .error (.invalid (.shortToolTimeout 600 700)) := by
  have fits : patient.Fits := by
    constructor <;> decide +kernel
  have accepted : patient.check = .ok () := by decide +kernel
  obtain ⟨whole, parts⟩ := read_write fits accepted
  refine ⟨whole, ?_, ?_⟩
  · obtain ⟨text, written, outcome⟩ := parts (· == ["watchdog"])
    have rest : patient.withDefaults (· == ["watchdog"]) =
        { patient with watchdog := .default } := by decide +kernel
    have accepted : { patient with watchdog := .default }.check = .ok () := by decide +kernel
    rw [rest, accepted] at outcome
    rcases outcome with ⟨-, read⟩ | ⟨reason, refused, -⟩
    · exact ⟨text, written, read⟩
    · cases refused
  · obtain ⟨text, written, outcome⟩ := parts (· == ["watchdog", "tool_timeout_secs"])
    have refused : (patient.withDefaults (· == ["watchdog", "tool_timeout_secs"])).check =
        .error (.invalid (.shortToolTimeout 600 700)) := by decide +kernel
    rw [refused] at outcome
    rcases outcome with ⟨accepted, -⟩ | ⟨reason, same, read⟩
    · cases accepted
    · cases same
      exact ⟨text, written, read⟩

end Ensemble
