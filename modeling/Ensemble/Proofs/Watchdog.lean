import Ensemble.Watchdog
import Mathlib.Data.Option.Basic

/-!
# What the watchdog finds

The turns that the watchdog finds in a registry of sessions are those that have been open for longer
than their timeout, in the order of their names (`mem_findStuck_iff_exceeds`, `findStuck_pairwise`).
A turn that is found is found with fewer multi-agent sessions, too (`IsStuck.of_subset`), and at
every later time (`IsStuck.later`).

A leap second is read as the continuation of the second before it, and it counts or not depending on
the times of the day.  So the time that has gone by at a reading may be shorter at the next one.
Outside of leap seconds this does not happen (`Timestamp.elapsed_le_elapsed`).
-/

namespace Ensemble

namespace Timestamp

/-- Readings are ordered by their seconds, and those of one second by the nanoseconds in it. -/
instance : LE Timestamp where
  le a b := a.seconds < b.seconds ∨ a.seconds = b.seconds ∧ a.nanos ≤ b.nanos

instance (a b : Timestamp) : Decidable (a ≤ b) :=
  inferInstanceAs (Decidable (a.seconds < b.seconds ∨ a.seconds = b.seconds ∧ a.nanos ≤ b.nanos))

/-- Whether a reading lies outside of leap seconds. -/
def IsRegular (t : Timestamp) : Prop :=
  t.nanos < nanosInSecond

instance (t : Timestamp) : Decidable t.IsRegular :=
  inferInstanceAs (Decidable (t.nanos < nanosInSecond))

/-- Between regular readings, no leap second counts. -/
theorem since_eq {later earlier : Timestamp} (h : later.IsRegular) (h' : earlier.IsRegular) :
    later.since earlier = (later.seconds - earlier.seconds) * nanosInSecond +
      (later.nanos - earlier.nanos) := by
  unfold IsRegular at h h'
  simp [since, Nat.not_le.2 h, Nat.not_le.2 h']

/-- At the later of two regular readings, as much time has gone by since a third, or more. -/
theorem elapsed_le_elapsed {startedAt now later : Timestamp} (started : startedAt.IsRegular)
    (regular : now.IsRegular) (regular' : later.IsRegular) (le : now ≤ later) :
    (now.elapsed startedAt).nanos ≤ (later.elapsed startedAt).nanos := by
  suffices le : now.since startedAt ≤ later.since startedAt from Int.toNat_le_toNat le
  rw [since_eq regular started, since_eq regular' started]
  unfold IsRegular at regular regular'
  simp only [nanosInSecond] at regular regular' ⊢
  -- within a second the nanoseconds decide, and else they do not make up for a whole second
  rcases le with earlier | ⟨same, le⟩
  · omega
  · rw [same]
    omega

end Timestamp

namespace Registry

variable {r : Registry Session} (filed : ∀ name s, r.get? name = some s → s.name = name)
include filed

/-- Sessions that are filed under their names are listed in the order of these, each once. -/
theorem values_pairwise : r.values.Pairwise fun a b => a.name < b.name := by
  rw [values, List.pairwise_map]
  refine r.sorted.imp_of_mem fun {a b} mem mem' below => ?_
  rw [filed a.1 a.2 (mem_entries_iff.1 mem), filed b.1 b.2 (mem_entries_iff.1 mem')]
  exact below

/-- The sessions that are listed are those that are found under their names. -/
theorem mem_values_iff {s : Session} : s ∈ r.values ↔ r.get? s.name = some s := by
  constructor
  · intro mem
    obtain ⟨entry, listed, rfl⟩ := List.mem_map.1 mem
    have found := mem_entries_iff.1 listed
    rw [filed entry.1 entry.2 found]
    exact found
  · exact fun found => List.mem_map.2 ⟨_, mem_entries_iff.2 found, rfl⟩

end Registry

namespace Watchdog

variable {settings : WatchdogSettings} {now : Timestamp} {multiAgent : List String} {s : Session}

/-- A turn is stuck if it has been open for longer than its timeout. -/
theorem stuckTurn?_eq_some_iff {turn : StuckTurn} :
    stuckTurn? settings now multiAgent s = some turn ↔
      s.isProcessing = true ∧ ∃ startedAt, s.startedAt = some startedAt ∧
        (timeout settings s (multiAgent.contains s.name)).nanos <
          (now.elapsed startedAt).nanos ∧
        turn = ⟨s.name, now.elapsed startedAt,
          timeout settings s (multiAgent.contains s.name)⟩ := by
  simp only [stuckTurn?, elapsed?, Option.bind_eq_bind, Option.bind_eq_some_iff,
    Option.guard_eq_some', Option.map_eq_some_iff, Option.pure_def, Option.some.injEq]
  constructor
  · rintro ⟨-, busy, _, ⟨startedAt, started, rfl⟩, -, exceeds, rfl⟩
    exact ⟨busy, startedAt, started, exceeds, rfl⟩
  · rintro ⟨busy, startedAt, started, exceeds, rfl⟩
    exact ⟨(), busy, _, ⟨startedAt, started, rfl⟩, (), exceeds, rfl⟩

/-- Whether the open turn of a session is stuck. -/
def IsStuck (settings : WatchdogSettings) (now : Timestamp) (multiAgent : List String)
    (s : Session) : Prop :=
  ∃ turn, stuckTurn? settings now multiAgent s = some turn

theorem isStuck_iff :
    IsStuck settings now multiAgent s ↔
      s.isProcessing = true ∧ ∃ startedAt, s.startedAt = some startedAt ∧
        (timeout settings s (multiAgent.contains s.name)).nanos <
          (now.elapsed startedAt).nanos := by
  simp only [IsStuck, stuckTurn?_eq_some_iff]
  constructor
  · rintro ⟨_, busy, startedAt, started, exceeds, -⟩
    exact ⟨busy, startedAt, started, exceeds⟩
  · rintro ⟨busy, startedAt, started, exceeds⟩
    exact ⟨_, busy, startedAt, started, exceeds, rfl⟩

/-- An idle session has no turn that could be stuck. -/
theorem not_isStuck_of_idle (idle : s.isProcessing = false) :
    ¬ IsStuck settings now multiAgent s := by
  simp [isStuck_iff, idle]

/-- What suggests that an agent is busy for good reason can only lengthen a timeout. -/
theorem timeout_le (valid : settings.check = .ok ()) {isMultiAgent isMultiAgent' : Bool}
    (h : isMultiAgent = true → isMultiAgent' = true) :
    (timeout settings s isMultiAgent).nanos ≤ (timeout settings s isMultiAgent').nanos := by
  obtain ⟨-, -, longer⟩ := settings.check_eq_ok_iff.1 valid
  by_cases uses : usesToolTimeout s isMultiAgent = true
  · have uses' : usesToolTimeout s isMultiAgent' = true := by
      simp only [usesToolTimeout, Bool.or_eq_true] at uses ⊢
      exact uses.imp_right h
    have same : timeout settings s isMultiAgent = timeout settings s isMultiAgent' := by
      simp [timeout, uses, uses']
    exact Nat.le_of_eq (congrArg Span.nanos same)
  · have shorter : timeout settings s isMultiAgent = .ofSeconds settings.inactivityTimeout := by
      simp [timeout, uses]
    rw [shorter]
    unfold timeout
    split <;> simp only [Span.ofSeconds] <;> omega

/-- No timeout is longer than the tool timeout. -/
theorem timeout_le_toolTimeout (valid : settings.check = .ok ()) (isMultiAgent : Bool) :
    (timeout settings s isMultiAgent).nanos ≤ (Span.ofSeconds settings.toolTimeout).nanos := by
  have longest : timeout settings s true = .ofSeconds settings.toolTimeout := by
    simp [timeout, usesToolTimeout]
  rw [← longest]
  exact timeout_le valid fun _ => rfl

namespace IsStuck

/-- A turn that is stuck is stuck at every later reading, outside of leap seconds. -/
theorem later (h : IsStuck settings now multiAgent s) {later : Timestamp} (le : now ≤ later)
    (regular : now.IsRegular) (regular' : later.IsRegular)
    (started : ∀ startedAt, s.startedAt = some startedAt → startedAt.IsRegular) :
    IsStuck settings later multiAgent s := by
  obtain ⟨busy, startedAt, start, exceeds⟩ := isStuck_iff.1 h
  have longer := Timestamp.elapsed_le_elapsed (started startedAt start) regular regular' le
  exact isStuck_iff.2 ⟨busy, startedAt, start, Nat.lt_of_lt_of_le exceeds longer⟩

/-- A turn that is stuck is stuck with fewer multi-agent sessions, too. -/
theorem of_subset {more : List String} (h : IsStuck settings now more s)
    (valid : settings.check = .ok ()) (fewer : multiAgent ⊆ more) :
    IsStuck settings now multiAgent s := by
  obtain ⟨busy, startedAt, started, exceeds⟩ := isStuck_iff.1 h
  have shorter : (timeout settings s (multiAgent.contains s.name)).nanos ≤
      (timeout settings s (more.contains s.name)).nanos := by
    refine timeout_le valid fun mem => ?_
    rw [List.contains_iff_mem] at mem ⊢
    exact fewer mem
  exact isStuck_iff.2 ⟨busy, startedAt, started, Nat.lt_of_le_of_lt shorter exceeds⟩

end IsStuck

/-! ## Registries of sessions -/

/-- Where no turn is stuck, none is found. -/
theorem findStuck_eq_nil {r : Registry Session}
    (h : ∀ name s, r.get? name = some s → ¬ IsStuck settings now multiAgent s) :
    findStuck settings now multiAgent r.values = [] := by
  have nothing : r.values.filterMap (stuckTurn? settings now multiAgent) = [] := by
    refine List.filterMap_eq_nil_iff.2 fun s mem => Option.eq_none_iff_forall_ne_some.2 ?_
    intro turn stuck
    obtain ⟨entry, listed, rfl⟩ := List.mem_map.1 mem
    exact h entry.1 entry.2 (Registry.mem_entries_iff.1 listed) ⟨turn, stuck⟩
  rw [findStuck, nothing, List.mergeSort_nil]

section Registry

variable {r : Registry Session} (filed : ∀ name s, r.get? name = some s → s.name = name)
include filed

/-- The stuck turns of a registry come in the order of their names, each once. -/
theorem findStuck_pairwise :
    (r.values.filterMap (stuckTurn? settings now multiAgent)).Pairwise
      fun a b => a.session < b.session := by
  rw [List.pairwise_filterMap]
  refine (Registry.values_pairwise filed).imp fun below turn stuck turn' stuck' => ?_
  obtain ⟨-, startedAt, -, -, rfl⟩ := stuckTurn?_eq_some_iff.1 stuck
  obtain ⟨-, startedAt', -, -, rfl⟩ := stuckTurn?_eq_some_iff.1 stuck'
  exact below

/-- The stuck turns of a registry are in order without being sorted. -/
theorem findStuck_eq :
    findStuck settings now multiAgent r.values =
      r.values.filterMap (stuckTurn? settings now multiAgent) := by
  refine List.mergeSort_of_pairwise ((findStuck_pairwise filed).imp fun {a b} below => ?_)
  exact decide_eq_true (String.not_lt.1 (String.lt_asymm below))

/-- The turns that are found are those of the sessions with a stuck turn. -/
theorem mem_findStuck_iff {turn : StuckTurn} :
    turn ∈ findStuck settings now multiAgent r.values ↔
      ∃ s, r.get? turn.session = some s ∧
        stuckTurn? settings now multiAgent s = some turn := by
  rw [findStuck_eq filed, List.mem_filterMap]
  refine exists_congr fun s => and_congr_left fun stuck => ?_
  obtain ⟨-, startedAt, -, -, rfl⟩ := stuckTurn?_eq_some_iff.1 stuck
  exact Registry.mem_values_iff filed

/-- The turns that are found are those that are open for longer than their timeout. -/
theorem mem_findStuck_iff_exceeds {turn : StuckTurn} :
    turn ∈ findStuck settings now multiAgent r.values ↔
      ∃ s startedAt, r.get? turn.session = some s ∧ s.isProcessing = true ∧
        s.startedAt = some startedAt ∧ turn.elapsed = now.elapsed startedAt ∧
        turn.timeout = timeout settings s (multiAgent.contains turn.session) ∧
        turn.timeout.nanos < turn.elapsed.nanos := by
  rw [mem_findStuck_iff filed]
  obtain ⟨session, elapsed, limit⟩ := turn
  dsimp only
  constructor
  · rintro ⟨s, found, stuck⟩
    obtain ⟨busy, startedAt, started, exceeds, same⟩ := stuckTurn?_eq_some_iff.1 stuck
    cases same
    exact ⟨s, startedAt, found, busy, started, rfl, rfl, exceeds⟩
  · rintro ⟨s, startedAt, found, busy, started, rfl, rfl, exceeds⟩
    have named : s.name = session := filed session s found
    subst named
    exact ⟨s, found, stuckTurn?_eq_some_iff.2 ⟨busy, startedAt, started, exceeds, rfl⟩⟩

/-- The names that are found are those of the sessions with a stuck turn. -/
theorem mem_names_findStuck_iff {name : String} :
    name ∈ (findStuck settings now multiAgent r.values).map (·.session) ↔
      ∃ s, r.get? name = some s ∧ IsStuck settings now multiAgent s := by
  rw [List.mem_map]
  constructor
  · rintro ⟨turn, mem, rfl⟩
    obtain ⟨s, found, stuck⟩ := (mem_findStuck_iff filed).1 mem
    exact ⟨s, found, turn, stuck⟩
  · rintro ⟨s, found, turn, stuck⟩
    -- A turn is reported under the name that its session is filed under.
    have named : turn.session = name := by
      obtain ⟨-, startedAt, -, -, rfl⟩ := stuckTurn?_eq_some_iff.1 stuck
      exact filed name s found
    refine ⟨turn, (mem_findStuck_iff filed).2 ⟨s, ?_, stuck⟩, named⟩
    rw [named]
    exact found

end Registry

end Watchdog

end Ensemble
