import Ensemble.Proofs.Reflection.Reached
import Ensemble.Proofs.State.Storage

/-!
# States that cannot be loaded

A number that is not finite has no text in a document and is written as `null`, and no reader of
numbers takes `null`.  A cycle with such a threshold of its trend is therefore refused, and with it
its group, its organization and the whole state.

Together with what is known of the cycles that settings lead to: whether such a cycle is read back,
and whether a state with such cycles is loaded after it was saved, depends on nothing but these
thresholds.
-/

namespace Ensemble

open Json

/-- A number that is not finite has no text. -/
theorem Binary64.float_eq_null {x : Binary64} (h : x.isFinite = false) : Json.float x = .null := by
  cases x with
  | nan | infinite => rfl
  | finite => cases h

/-- A number that is not finite is refused. -/
theorem Binary64.refuses {x : Binary64} (h : x.isFinite = false) :
    Refuses .plain Json.float Json.float? x := by
  apply refuses_plain
  rw [float_eq_null h]
  rfl

/-! ## What is refused -/

/-- A cycle is refused if the threshold of its trend is not finite. -/
theorem Reflection.Cycle.refuses {c : Reflection.Cycle} (h : c.trendThreshold.isFinite = false)
    (fresh : Id) (now : Timestamp) : Refuses shape toJson (ofJson? fresh now) c := by
  intro w hw
  rw [toJson_eq] at hw
  obtain ⟨found, hfields, hfound⟩ := fields?_of_extends hw rfl (by decide)
  simp only [List.forall_mem_cons, String.reduceEq, if_false, if_true] at hfound
  obtain ⟨-, -, -, -, -, -, -, -, -, -, -, -, trendThreshold, -⟩ := hfound
  refine bind_eq hfields ?_
  simp only [fieldNames, List.map_cons, List.map_nil]
  -- the threshold comes after twelve other fields, whatever is read from them
  iterate 12 refine bind_eq_none fun _ => ?_
  exact bind_of_none (orDefault?_eq_none (Binary64.refuses h) _ trendThreshold) _

/-- A group is refused if its cycle is. -/
theorem Group.refuses {g : Group} {c : Reflection.Cycle} (hc : c ∈ g.reflection) {fresh : Id}
    {now : Timestamp} (h : Refuses Reflection.Cycle.shape Reflection.Cycle.toJson
      (Reflection.Cycle.ofJson? fresh now) c) : Refuses shape toJson (ofJson? fresh now) g := by
  intro w hw
  rw [toJson_eq] at hw
  obtain ⟨found, hfields, hfound⟩ := fields?_of_extends hw rfl (by decide)
  simp only [List.forall_mem_cons, String.reduceEq, if_false, if_true] at hfound
  obtain ⟨-, -, -, -, -, -, -, reflection, -⟩ := hfound
  refine bind_eq hfields ?_
  simp only [fieldNames, List.map_cons, List.map_nil]
  -- the cycle comes after seven other fields
  iterate 7 refine bind_eq_none fun _ => ?_
  exact bind_of_none (optional?_eq_none hc h (not_extends_null _) reflection) _

/-- Groups are refused if one of them is, whatever may be drawn for it. -/
theorem Group.listOfJson?_refuses {fresh : Nat → Id} {now : Timestamp} {groups : List Group}
    {g : Group} (hg : g ∈ groups) (h : ∀ id, Refuses shape toJson (ofJson? id now) g)
    {ws : List Json} (hws : List.Forall₂ (Extends shape) (groups.map toJson) ws) (start : Nat) :
    listOfJson? fresh now start ws = none := by
  induction groups generalizing ws start with
  | nil => cases hg
  | cons first groups ih =>
    rcases hws with - | ⟨hw, hws⟩
    rw [listOfJson?]
    rcases List.mem_cons.1 hg with rfl | hg
    · exact bind_of_none (h (fresh start) _ hw) _
    · refine bind_eq_none fun _ => ?_
      exact bind_of_none (ih hg hws _) _

/-- An organization is refused if one of its groups is. -/
theorem Organization.refuses {o : Organization} {g : Group} (hg : g ∈ o.groups)
    {fresh : Nat → Id} {now : Timestamp}
    (h : ∀ id, Refuses Group.shape Group.toJson (Group.ofJson? id now) g) :
    Refuses shape toJson (ofJson? fresh now) o := by
  intro w hw
  rw [toJson_eq] at hw
  obtain ⟨found, hfields, hfound⟩ := fields?_of_extends hw rfl (by decide)
  simp only [List.forall_mem_cons, String.reduceEq, if_false, if_true] at hfound
  -- One field that cannot be read is enough, whatever the others hold.
  obtain ⟨groups, -⟩ := hfound
  have hgroups {read : Json → Option (List Group)}
      (hread : ∀ items, read (.array items) = Group.listOfJson? fresh now 0 items) :
      Refuses (.list Group.shape) (fun gs => .array (gs.map Group.toJson)) read o.groups := by
    rintro w ⟨vs, ws, hvs, rfl, hall⟩
    cases hvs
    rw [hread]
    exact Group.listOfJson?_refuses hg h hall 0
  refine bind_eq hfields ?_
  simp only [fieldNames, List.map_cons, List.map_nil]
  exact bind_of_none (orDefault?_eq_none (hgroups fun items => rfl) _ groups) _

namespace SavedState

/-- A state is refused if its organization is. -/
theorem refuses {s : SavedState} {fresh : Nat → Id} {now : Timestamp}
    (h : Refuses Organization.shape Organization.toJson (Organization.ofJson? fresh now)
      s.organization) : Refuses shape toJson (ofJson? fresh now) s := by
  intro w hw
  rw [toJson_eq] at hw
  obtain ⟨found, hfields, hfound⟩ := fields?_of_extends hw rfl (by decide)
  simp only [List.forall_mem_cons, String.reduceEq, if_false, if_true] at hfound
  obtain ⟨-, organization, -⟩ := hfound
  refine bind_eq hfields ?_
  simp only [fieldNames, List.map_cons, List.map_nil]
  refine bind_eq_none fun _ => ?_
  exact bind_of_none (orDefault?_eq_none h _ organization) _

/-! ## States with the cycles of settings -/

/-- Whether the thresholds of all trends in a state are finite. -/
def trendsFinite (s : SavedState) : Bool :=
  s.organization.groups.all fun g => g.reflection.all fun c => c.trendThreshold.isFinite

/-- A state whose cycles come from accepted settings, and of which everything else can be stored. -/
structure Kept (s : SavedState) : Prop where
  version : s.version ≤ maxWord32
  sessions : ∀ session ∈ s.sessions, session.Storable
  createdAt : ∀ g ∈ s.organization.groups, g.createdAt.ReadsBack
  cycles : ∀ g ∈ s.organization.groups, ∀ c ∈ g.reflection,
    c.Legible ∧ ∃ settings : ReflectionSettings, settings.Accepted ∧ c.Reached settings

variable {s : SavedState} {time : Timestamp} (fresh : Nat → Id) (now : Timestamp)

theorem Kept.storable (h : s.Kept) (finite : s.trendsFinite = true) (saved : time.ReadsBack) :
    (s.stamped time).Storable where
  version := h.version
  groups := fun g hg => by
    refine ⟨fun c hc => ?_, h.createdAt g hg⟩
    obtain ⟨legible, settings, accepted, reached⟩ := h.cycles g hg c hc
    have trends := List.all_eq_true.1 finite g hg
    rw [hc] at trends
    exact (reached.sound accepted).storable legible trends
  sessions := h.sessions
  savedAt := saved

/-- A state is refused if one of its trends has a threshold that is not finite. -/
theorem refuses_of_trend (infinite : s.trendsFinite = false) :
    Refuses shape toJson (ofJson? fresh now) s := by
  obtain ⟨g, hg, hc⟩ := List.all_eq_false.1 infinite
  cases reflection : g.reflection with
  | none => exact absurd (by rw [reflection]; rfl) hc
  | some c =>
    rw [reflection] at hc
    have trend : c.trendThreshold.isFinite = false := Bool.eq_false_iff.2 hc
    exact refuses <| Organization.refuses hg fun id =>
      Group.refuses reflection (Reflection.Cycle.refuses trend id now)

/-! ## Saving and loading -/

variable {fs : FileSystem} {p : Path}

theorem load_of_storable (saved : (s.save fs p time).1 = .ok ())
    (storable : (s.stamped time).Storable) :
    load (s.save fs p time).2 p fresh now = .ok (s.stamped time) := by
  obtain ⟨main, -⟩ := save_done saved
  refine load_of_readable fresh now ?_ (readFile_of_written fresh now storable main)
  rw [FileSystem.contains, main]
  rfl

/-- If a state that was saved is refused, its backup is what is left to be loaded. -/
theorem load_of_refuses (saved : (s.save fs p time).1 = .ok ())
    (refused : Refuses shape toJson (ofJson? fresh now) (s.stamped time)) :
    let after := (s.save fs p time).2
    load after p fresh now =
      if after.contains (backupPath p) then readFile after (backupPath p) fresh now
      else .error .jsonDocument := by
  intro after
  obtain ⟨main, -⟩ := save_done saved
  have there : after.contains p = true := by
    rw [FileSystem.contains, main]
    rfl
  have unread : readFile after p fresh now = .error .jsonDocument := by
    rw [readFile_of_text fresh now main, read, write, read?_write (wellFormed_toJson _),
      Option.bind_some, refused _ (extends_toJson _)]
  exact load_of_unreadable fresh now there unread

/--
A cycle that accepted settings lead to is read back from its text if the threshold of the trend in
the settings is finite, and its text is not read at all if it is not.  If all such thresholds in a
state are finite, the state is loaded after it was saved; if one is not, nothing is loaded but a
backup of what was there before.
-/
theorem loaded_iff_trends_finite {settings : ReflectionSettings} (accepted : settings.Accepted)
    {c : Reflection.Cycle} (reached : c.Reached settings) (legible : c.Legible) (id : Id)
    (kept : s.Kept) (legibleTime : time.ReadsBack) (saved : (s.save fs p time).1 = .ok ()) :
    (Json.read? c.toJson.write).bind (Reflection.Cycle.ofJson? id now) =
      (if settings.trendThreshold.isFinite then some c else none) ∧
    let after := (s.save fs p time).2
    load after p fresh now =
      if s.trendsFinite then .ok (s.stamped time)
      else if after.contains (backupPath p) then readFile after (backupPath p) fresh now
      else .error .jsonDocument := by
  have sound := reached.sound accepted
  refine ⟨?_, ?_⟩
  · rw [read?_write c.wellFormed_toJson, Option.bind_some, ← sound.trendThreshold]
    split
    next finite =>
      have storable : c.Storable := sound.storable legible finite
      exact Reflection.Cycle.recovers storable id now _ c.extends_toJson
    next infinite =>
      have trend : c.trendThreshold.isFinite = false := Bool.eq_false_iff.2 infinite
      exact Reflection.Cycle.refuses trend id now _ c.extends_toJson
  · intro after
    split
    next finite => exact load_of_storable fresh now saved (kept.storable finite legibleTime)
    next infinite =>
      have stamped : (s.stamped time).trendsFinite = false := Bool.eq_false_iff.2 infinite
      exact load_of_refuses fresh now saved (refuses_of_trend fresh now stamped)

/-- A cycle from the default settings is loaded with its group after an iteration. -/
theorem evaluated_cycle_loaded :
    let start : Timestamp := ⟨1700000000, 250000000⟩
    let p : Path := ["organization.json"]
    let op : Reflection.Cycle.Operation :=
      .advanceWith "First draft" ⟨.one, false, "More tests"⟩ (some "opus") start
    let c := ((Reflection.Cycle.ofSettings ⟨2⟩ "Ship it" .default start).perform op).2
    let s := create ⟨[{ Group.create ⟨1⟩ "team" .orchestratorReflect true start with
      reflection := some c }], []⟩ [] start
    ReflectionSettings.default.Accepted ∧ c.Reached .default ∧ c.Legible ∧ s.Kept ∧
      start.ReadsBack ∧ (s.save .empty p start).1 = .ok () ∧
      (Json.read? c.toJson.write).bind (Reflection.Cycle.ofJson? ⟨3⟩ start) = some c ∧
      load (s.save .empty p start).2 p (fun n => ⟨n⟩) start = .ok s := by
  intro start p op c s
  have accepted : ReflectionSettings.default.Accepted :=
    ⟨by decide +kernel, by decide, by decide⟩
  have reached : c.Reached .default := .perform (.ofSettings ⟨2⟩ "Ship it" start) op
  have legible : c.Legible := ⟨by decide +kernel, by decide +kernel⟩
  have time : start.ReadsBack := by decide +kernel
  have kept : s.Kept := by
    refine ⟨by decide, nofun, fun g hg => ?_, fun g hg c' hc => ?_⟩
    · obtain rfl := List.mem_singleton.1 hg
      exact time
    · obtain rfl := List.mem_singleton.1 hg
      obtain rfl := Option.some.inj hc
      exact ⟨legible, .default, accepted, reached⟩
  have saved : (s.save .empty p start).1 = .ok () := by decide +kernel
  obtain ⟨read, loaded⟩ := loaded_iff_trends_finite (fun n => ⟨n⟩) start accepted reached legible
    ⟨3⟩ kept time saved
  have finite : ReflectionSettings.default.trendThreshold.isFinite = true := by decide +kernel
  have trends : s.trendsFinite = true := by decide +kernel
  exact ⟨accepted, reached, legible, kept, time, saved, read.trans (if_pos finite),
    loaded.trans (if_pos trends)⟩

/-- Settings with an infinite threshold of the trend are accepted, and a state with a cycle made
from them cannot be loaded after it was saved, although all that is finite in it reads back. -/
theorem infinite_trend_not_loaded :
    let start : Timestamp := ⟨1700000000, 250000000⟩
    let p : Path := ["organization.json"]
    let settings : ReflectionSettings :=
      { ReflectionSettings.default with trendThreshold := .infinite false }
    let c := Reflection.Cycle.ofSettings ⟨2⟩ "Ship it" settings start
    let s := create ⟨[{ Group.create ⟨1⟩ "team" .orchestratorReflect true start with
      reflection := some c }], []⟩ [] start
    settings.Accepted ∧ c.Reached settings ∧ c.Legible ∧
      (Json.read? c.toJson.write).bind (Reflection.Cycle.ofJson? ⟨3⟩ start) = none ∧
      (s.save .empty p start).1 = .ok () ∧
      load (s.save .empty p start).2 p (fun n => ⟨n⟩) start = .error .jsonDocument := by
  intro start p settings c s
  have accepted : settings.Accepted := ⟨by decide +kernel, by decide, by decide⟩
  have reached : c.Reached settings := .ofSettings ⟨2⟩ "Ship it" start
  have legible : c.Legible := ⟨by decide +kernel, by decide +kernel⟩
  have refused := Reflection.Cycle.refuses (c := c) rfl ⟨3⟩ start
  have saved : (s.save .empty p start).1 = .ok () := by decide +kernel
  have unsaved : (s.save .empty p start).2.contains (backupPath p) = false := by decide +kernel
  refine ⟨accepted, reached, legible, ?_, saved, ?_⟩
  · rw [read?_write c.wellFormed_toJson, Option.bind_some]
    exact refused _ c.extends_toJson
  · have loaded := load_of_refuses (fun n => ⟨n⟩) start saved (refuses_of_trend _ start rfl)
    exact loaded.trans (if_neg (Bool.eq_false_iff.1 unsaved))

end SavedState

end Ensemble
