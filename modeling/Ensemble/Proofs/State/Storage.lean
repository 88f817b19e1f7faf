import Ensemble.Proofs.FileSystem
import Ensemble.Proofs.State.Document
import Ensemble.State.Storage

/-!
# Saving and loading

What a save does to a file, its backup and its draft is one of three things (`Saving`): it fails
before anything is written, it fails once the file has been copied over its backup, or it succeeds.
What is loaded depends on the file and its backup only (`load_congr`).

After saves that succeeded, what the last document reads as is loaded (`load_saveAll`).  Where
states read back that is the last state, and if the file is spoilt then, the one before it
(`loads_last_saved`); finite numbers need not (`saved_similarity_not_loaded`).  A save that fails
does not change what is loaded, with one exception: a backup that stands in for a file that cannot
be read is lost as soon as that file has been copied over it (`load_after_failed_save`).
-/

namespace Ensemble.SavedState

variable {fs after : FileSystem} {p q : Path} {s : SavedState} {now : Timestamp}

/-! ## The paths beside a file -/

/-- The backup stands beside the file. -/
@[simp] theorem parent_backupPath (p : Path) : (backupPath p).parent = p.parent :=
  p.parent_withEnding "json.bak"

/-- The backup is another file. -/
theorem backupPath_ne (named : p.name?.isSome = true) : backupPath p ≠ p :=
  Path.withEnding_ne named (by decide)

/-- The draft is another file. -/
theorem draftPath_ne (named : p.name?.isSome = true) : draftPath p ≠ p :=
  Path.withEnding_ne named (by decide)

/-- The draft is not the backup. -/
theorem draftPath_ne_backupPath (named : p.name?.isSome = true) : draftPath p ≠ backupPath p :=
  Path.withEnding_ne_withEnding named (by decide)

/-- A path beside which a file can be put has a name. -/
theorem named_of_canHold {ending : String} (h : fs.canHold (p.withEnding ending) = true) :
    p.name?.isSome = true := by
  cases unnamed : p.name? with
  | some name => rfl
  | none =>
    rw [Path.withEnding_of_unnamed unnamed] at h
    have named := FileSystem.name?_of_canHold h
    rwa [unnamed] at named

/-! ## What a save does -/

/-- What the backup of a file is once the file, if there is one, has been copied. -/
def backedUp (fs : FileSystem) (p : Path) : Option FileNode :=
  if fs.contains p then fs.node? p else fs.node? (backupPath p)

/-- Making room for a file leaves alone what is beside it. -/
theorem node?_makeRoom (beside : q.parent = p.parent) :
    (makeRoom fs p).2.node? q = fs.node? q := by
  unfold makeRoom
  split
  next => rfl
  next nested =>
    exact FileSystem.node?_ensureDirectory
      (Path.not_prefix_of_beside (by simpa using nested) beside)

/-- Backing a file up copies it as a whole, or nothing is changed. -/
theorem backUp_cases (fs : FileSystem) (p : Path) :
    ((backUp fs p).1 = .ok () ∧ (backUp fs p).2.node? p = fs.node? p ∧
        (backUp fs p).2.node? (backupPath p) = backedUp fs p) ∨
      ∃ failure, backUp fs p = (.error failure, fs) := by
  unfold backUp backedUp
  split
  next =>
    rcases fs.copy_cases p (backupPath p) with ⟨text, -, holds, done⟩ | failed
    · have apart := backupPath_ne (named_of_canHold holds)
      rw [done]
      exact .inl ⟨rfl, FileSystem.node?_put_of_ne fs apart.symm _, FileSystem.node?_put fs _ _⟩
    · exact .inr failed
  next => exact .inl ⟨rfl, rfl, rfl⟩

/-- Preparations fail before the backup is touched, or the file has been copied over it. -/
theorem prepare_cases (fs : FileSystem) (p : Path) :
    ((prepare fs p).1 = .ok () ∧ (prepare fs p).2.node? p = fs.node? p ∧
        (prepare fs p).2.node? (backupPath p) = backedUp fs p) ∨
      ∃ failure, (prepare fs p).1 = .error failure ∧ (prepare fs p).2.node? p = fs.node? p ∧
        (prepare fs p).2.node? (backupPath p) = fs.node? (backupPath p) := by
  have main : (makeRoom fs p).2.node? p = fs.node? p := node?_makeRoom rfl
  have backup : (makeRoom fs p).2.node? (backupPath p) = fs.node? (backupPath p) :=
    node?_makeRoom (parent_backupPath p)
  unfold prepare
  cases made : (makeRoom fs p).1 with
  | error failure =>
    rw [FileSystem.andThen_of_error made]
    exact .inr ⟨failure, rfl, main, backup⟩
  | ok =>
    rw [FileSystem.andThen_of_ok made]
    -- making room leaves both files, so the backup is made of the same file
    have same : backedUp (makeRoom fs p).2 p = backedUp fs p := by
      rw [backedUp, FileSystem.contains_congr main, main, backup]
      rfl
    rcases backUp_cases (makeRoom fs p).2 p with ⟨done, main', backup'⟩ | ⟨failure, failed⟩
    · exact .inl ⟨done, main'.trans main, backup'.trans same⟩
    · rw [failed]
      exact .inr ⟨failure, rfl, main, backup⟩

/-- What a save of a text can do to the files of a path. -/
inductive Saving (fs : FileSystem) (p : Path) (text : String) :
    Attempt Unit × FileSystem → Prop where
  /-- It fails before the backup is touched. -/
  | unprepared {failure : Failure} {after : FileSystem}
      (failed : (prepare fs p).1 = .error failure) (main : after.node? p = fs.node? p)
      (backup : after.node? (backupPath p) = fs.node? (backupPath p)) :
      Saving fs p text (.error failure, after)
  /-- It fails to write the draft, or to put it in the place of the file. -/
  | unwritten {failure : Failure} {after : FileSystem}
      (prepared : (prepare fs p).1 = .ok ()) (main : after.node? p = fs.node? p)
      (backup : after.node? (backupPath p) = backedUp fs p) :
      Saving fs p text (.error failure, after)
  | saved {after : FileSystem} (main : after.node? p = some (.file (some text)))
      (backup : after.node? (backupPath p) = backedUp fs p)
      (draft : after.node? (draftPath p) = none) (apart : backupPath p ≠ p) :
      Saving fs p text (.ok (), after)

/-- There is nothing else that a save can do. -/
theorem saving (s : SavedState) (fs : FileSystem) (p : Path) (now : Timestamp) :
    Saving fs p (s.stamped now).write (s.save fs p now) := by
  unfold save
  generalize (s.stamped now).write = text
  rcases prepare_cases fs p with ⟨prepared, main, backup⟩ | ⟨failure, failed, main, backup⟩
  case inr =>
    rw [FileSystem.andThen_of_error failed]
    exact .unprepared failed main backup
  rw [FileSystem.andThen_of_ok prepared]
  rcases (prepare fs p).2.write_cases (draftPath p) text with ⟨holds, done⟩ | ⟨failure, failed⟩
  case inr =>
    rw [failed]
    exact .unwritten prepared main backup
  have named : p.name?.isSome = true := named_of_canHold holds
  have apart := draftPath_ne named
  have apart' := draftPath_ne_backupPath named
  rw [done, FileSystem.andThen_of_ok rfl]
  -- from here on the draft stands beside the file, which is still the old one
  have main' := (FileSystem.node?_put_of_ne (prepare fs p).2 apart.symm
    (some (.file (some text)))).trans main
  have backup' := (FileSystem.node?_put_of_ne (prepare fs p).2 apart'.symm
    (some (.file (some text)))).trans backup
  generalize drafted : (prepare fs p).2.put (draftPath p) (some (.file (some text))) = mid
    at main' backup'
  have draft : mid.node? (draftPath p) = some (.file (some text)) := by
    rw [← drafted, FileSystem.node?_put]
  rcases mid.rename_cases apart with moved | ⟨failure, failed⟩
  · rw [moved, draft]
    refine .saved ?_ ?_ ?_ (backupPath_ne named)
    · rw [FileSystem.node?_put_of_ne _ apart.symm, FileSystem.node?_put]
    · rw [FileSystem.node?_put_of_ne _ apart'.symm,
        FileSystem.node?_put_of_ne _ (backupPath_ne named), backup']
    · rw [FileSystem.node?_put]
  · rw [failed]
    exact .unwritten prepared main' backup'

/-! ## What is loaded -/

variable (fresh : Nat → Id) (time : Timestamp)

/-- What is read of a file depends on what is found there. -/
theorem readFile_congr (h : after.node? q = fs.node? p) :
    readFile after q fresh time = readFile fs p fresh time := by
  simp only [readFile, FileSystem.read, h]

/-- What is loaded depends on the file and its backup only. -/
theorem load_congr (main : after.node? p = fs.node? p)
    (backup : after.node? (backupPath p) = fs.node? (backupPath p)) :
    load after p fresh time = load fs p fresh time := by
  rw [load, FileSystem.contains_congr main, FileSystem.contains_congr backup,
    readFile_congr fresh time main, readFile_congr fresh time backup]
  rfl

/-- There is nothing to load where there is no file. -/
theorem load_of_missing (missing : fs.contains p = false) :
    load fs p fresh time = .ok (empty time) := by
  simp only [load, missing, Bool.not_false, if_true]

/-- A file that can be read is loaded. -/
theorem load_of_readable {state : SavedState} (there : fs.contains p = true)
    (h : readFile fs p fresh time = .ok state) : load fs p fresh time = .ok state := by
  simp only [load, there, h, Bool.not_true, Bool.false_eq_true, if_false]

/-- The backup stands in for a file that cannot be read. -/
theorem load_of_unreadable {failure : Failure} (there : fs.contains p = true)
    (h : readFile fs p fresh time = .error failure) :
    load fs p fresh time =
      if fs.contains (backupPath p) then readFile fs (backupPath p) fresh time
      else .error failure := by
  simp only [load, there, h, Bool.not_true, Bool.false_eq_true, if_false]

/-- A file with a text is read as that text. -/
theorem readFile_of_text {text : String} (h : fs.node? p = some (.file (some text))) :
    readFile fs p fresh time = read fresh time text := by
  rw [readFile, FileSystem.read, h]
  rfl

/-- A file that holds the document of a state is read as what this document reads as. -/
theorem readFile_of_document {read : SavedState} (reads : ofJson? fresh time s.toJson = some read)
    (written : fs.node? p = some (.file (some s.write))) : readFile fs p fresh time = .ok read := by
  have document : Json.read? s.write = some s.toJson := Json.read?_write s.wellFormed_toJson
  rw [readFile_of_text fresh time written, SavedState.read, document, Option.bind_some, reads]

/-- A state is read back from a file that holds its document. -/
theorem readFile_of_written (h : s.Storable) (written : fs.node? p = some (.file (some s.write))) :
    readFile fs p fresh time = .ok s :=
  readFile_of_document fresh time (recovers h fresh time _ s.extends_toJson) written

/-! ## Saves that succeed -/

/-- After a save that succeeded, the file holds the document, and no draft is left. -/
theorem save_done (done : (s.save fs p now).1 = .ok ()) :
    let after := (s.save fs p now).2
    after.node? p = some (.file (some (s.stamped now).write)) ∧
      after.node? (backupPath p) = backedUp fs p ∧
      after.node? (draftPath p) = none ∧ backupPath p ≠ p := by
  have saving := saving s fs p now
  generalize s.save fs p now = result at saving done
  cases saving with
  | unprepared | unwritten => cases done
  | saved main backup draft apart => exact ⟨main, backup, draft, apart⟩

/-- Saves states one after the other, each at its time, until one save fails. -/
def saveAll (fs : FileSystem) (p : Path) : List (SavedState × Timestamp) → Attempt Unit × FileSystem
  | [] => (.ok (), fs)
  | (s, now) :: rest => FileSystem.andThen (s.save fs p now) fun fs => saveAll fs p rest

/-- If all saves succeed, the last one does, after the others did. -/
theorem saveAll_concat {earlier : List (SavedState × Timestamp)}
    (done : (saveAll fs p (earlier ++ [(s, now)])).1 = .ok ()) :
    (saveAll fs p earlier).1 = .ok () ∧
      saveAll fs p (earlier ++ [(s, now)]) = s.save (saveAll fs p earlier).2 p now := by
  induction earlier generalizing fs with
  | nil =>
    refine ⟨rfl, ?_⟩
    simp only [List.nil_append, saveAll] at done ⊢
    cases saved : (s.save fs p now).1 with
    | error failure =>
      rw [FileSystem.andThen_of_error saved] at done
      cases done
    | ok =>
      rw [FileSystem.andThen_of_ok saved]
      exact Prod.ext saved.symm rfl
  | cons first rest ih =>
    simp only [List.cons_append, saveAll] at done ⊢
    -- nothing follows a save that fails, and here the last one is done
    cases saved : (first.1.save fs p first.2).1 with
    | error failure =>
      rw [FileSystem.andThen_of_error saved] at done
      cases done
    | ok =>
      rw [FileSystem.andThen_of_ok saved] at done ⊢
      rw [FileSystem.andThen_of_ok saved]
      exact ih done

/-- After saves that succeeded, the file holds the last document, and no draft is left. -/
theorem saveAll_last {earlier : List (SavedState × Timestamp)}
    (done : (saveAll fs p (earlier ++ [(s, now)])).1 = .ok ()) :
    let after := (saveAll fs p (earlier ++ [(s, now)])).2
    after.node? p = some (.file (some (s.stamped now).write)) ∧
      after.node? (backupPath p) = backedUp (saveAll fs p earlier).2 p ∧
      after.node? (draftPath p) = none ∧ backupPath p ≠ p := by
  obtain ⟨-, last⟩ := saveAll_concat done
  rw [last] at done ⊢
  exact save_done done

/-- After saves that succeeded, what the last document reads as is loaded. -/
theorem load_saveAll {earlier : List (SavedState × Timestamp)} {read : SavedState}
    (done : (saveAll fs p (earlier ++ [(s, now)])).1 = .ok ())
    (reads : ofJson? fresh time (s.stamped now).toJson = some read) :
    load (saveAll fs p (earlier ++ [(s, now)])).2 p fresh time = .ok read := by
  obtain ⟨main, -⟩ := saveAll_last done
  refine load_of_readable fresh time ?_ (readFile_of_document fresh time reads main)
  rw [FileSystem.contains, main]
  rfl

/--
After saves that succeeded, whatever was there before, the last state is loaded, with the time when
it was saved, and no draft is left.  If something that cannot be read then takes the place of the
file, the state saved before the last one is loaded.
-/
theorem loads_last_saved {earlier : List (SavedState × Timestamp)}
    (done : (saveAll fs p (earlier ++ [(s, now)])).1 = .ok ())
    (storable : ∀ saved ∈ earlier ++ [(s, now)], (saved.1.stamped saved.2).Storable) :
    let after := (saveAll fs p (earlier ++ [(s, now)])).2
    load after p fresh time = .ok (s.stamped now) ∧ after.contains (draftPath p) = false ∧
      ∀ previous, earlier.getLast? = some previous → ∀ node : FileNode,
        (∀ state, readFile (after.put p (some node)) p fresh time ≠ .ok state) →
          load (after.put p (some node)) p fresh time =
            .ok (previous.1.stamped previous.2) := by
  intro after
  obtain ⟨-, backup, draft, apart⟩ := saveAll_last done
  have storable' : (s.stamped now).Storable := storable (s, now) (by simp)
  refine ⟨?_, ?_, ?_⟩
  · exact load_saveAll fresh time done (recovers storable' fresh time _ (extends_toJson _))
  · rw [FileSystem.contains, draft]
    rfl
  · rintro ⟨s', now'⟩ previous node unreadable
    obtain ⟨start, rfl⟩ := List.getLast?_eq_some_iff.1 previous
    obtain ⟨earlierDone, -⟩ := saveAll_concat done
    obtain ⟨main', -⟩ := saveAll_last earlierDone
    -- the last save has copied the document of the state before it
    have there : (saveAll fs p (start ++ [(s', now')])).2.contains p = true := by
      rw [FileSystem.contains, main']
      rfl
    have kept : (after.put p (some node)).node? (backupPath p) =
        some (.file (some (s'.stamped now').write)) := by
      rw [FileSystem.node?_put_of_ne after apart, backup, backedUp, there, if_pos rfl, main']
    have read : readFile (after.put p (some node)) (backupPath p) fresh time =
        .ok (s'.stamped now') :=
      readFile_of_written fresh time (storable (s', now') (by simp)) kept
    cases h : readFile (after.put p (some node)) p fresh time with
    | ok state => exact absurd h (unreadable state)
    | error failure =>
      rw [load_of_unreadable fresh time (by simp [FileSystem.contains]) h, FileSystem.contains,
        kept, read]
      rfl

/-- The file, the backup and a draft are all spoilt, and so is the file again after two saves. -/
theorem spoilt_file_gives_previous :
    let start : Timestamp := ⟨1700000000, 250000000⟩
    let later : Timestamp := ⟨1700000060, 0⟩
    let p : Path := ["organization.json"]
    let fs := ((FileSystem.empty.put p (some (.file (some "\x7b")))).put (backupPath p)
      (some (.file none))).put (draftPath p) (some (.file none))
    let team := create ⟨[Group.create ⟨1⟩ "team" .broadcast true start], []⟩ [] start
    let saves := [(team, start)] ++ [(empty start, later)]
    let after := (saveAll fs p saves).2
    (saveAll fs p saves).1 = .ok () ∧ (∀ saved ∈ saves, (saved.1.stamped saved.2).Storable) ∧
      load after p (fun n => ⟨n⟩) later = .ok ((empty start).stamped later) ∧
      load (after.put p (some (.file none))) p (fun n => ⟨n⟩) later = .ok (team.stamped start) := by
  intro start later p fs team saves after
  have done : (saveAll fs p saves).1 = .ok () := by decide +kernel
  have time : start.ReadsBack ∧ later.ReadsBack := by decide +kernel
  have storable : ∀ saved ∈ saves, (saved.1.stamped saved.2).Storable := by
    simp only [saves, List.forall_mem_append, List.forall_mem_singleton]
    refine ⟨⟨by decide, fun g mem => ?_, List.forall_mem_nil _, time.1⟩,
      by decide, List.forall_mem_nil _, List.forall_mem_nil _, time.2⟩
    obtain rfl := List.mem_singleton.mp mem
    exact ⟨fun _ mem => absurd mem (Option.not_mem_none _), time.1⟩
  obtain ⟨last, -, previous⟩ := loads_last_saved (fun n => ⟨n⟩) later done storable
  refine ⟨done, storable, last, previous _ rfl (.file none) ?_⟩
  simp [readFile, FileSystem.read, bind, Except.bind]

/-- A similarity of two thirteenths is saved, and its neighbour is loaded: a finite number need not
read back from its text. -/
theorem saved_similarity_not_loaded :
    let now : Timestamp := ⟨1700000000, 250000000⟩
    let p : Path := ["organization.json"]
    let cycle : Reflection.Cycle :=
      { Reflection.Cycle.create ⟨2⟩ "Ship it" 3 now with lastSimilarity := .ofRatio false 2 13 }
    let state (c : Reflection.Cycle) : SavedState :=
      create ⟨[{ Group.create ⟨1⟩ "team" .orchestratorReflect true now with
        reflection := some c }], []⟩ [] now
    let after := saveAll .empty p [(state cycle, now)]
    let found : Binary64 := .ofDecimal false 15384615384615383 (-17)
    (∀ x ∈ [cycle.stallSimilarity, cycle.trendThreshold, cycle.lastSimilarity],
        x.isFinite = true) ∧
      after.1 = .ok () ∧
      load after.2 p (fun n => ⟨n⟩) now =
        .ok ((state { cycle with lastSimilarity := found }).stamped now) ∧
      found ≠ cycle.lastSimilarity := by
  intro now p cycle state after found
  have done : (saveAll .empty p ([] ++ [(state cycle, now)])).1 = .ok () := by decide +kernel
  have reads : ofJson? (fun n => ⟨n⟩) now ((state cycle).stamped now).toJson =
      some ((state { cycle with lastSimilarity := found }).stamped now) := by decide +kernel
  have loads := load_saveAll (fun n => ⟨n⟩) now done reads
  exact ⟨by decide +kernel, done, loads, by decide +kernel⟩

/-! ## Saves that fail -/

/-- The backup stands in for a file that cannot be read, and a save gets as far as copying that file
over it. -/
structure GivesUpBackup (fs : FileSystem) (p : Path) (fresh : Nat → Id) (time : Timestamp)
    (failure : Failure) : Prop where
  there : fs.contains p = true
  unreadable : readFile fs p fresh time = .error failure
  backup : fs.contains (backupPath p) = true
  prepared : (prepare fs p).1 = .ok ()

/-- What is loaded once a file has been copied over its backup and nothing else has changed. -/
theorem load_of_backedUp (main : after.node? p = fs.node? p)
    (backup : after.node? (backupPath p) = backedUp fs p) :
    load after p fresh time =
      if fs.contains p then readFile fs p fresh time else .ok (empty time) := by
  have same := FileSystem.contains_congr main
  cases there : fs.contains p with
  | false => exact load_of_missing fresh time (same.trans there)
  | true =>
    rw [backedUp, there, if_pos rfl] at backup
    rw [if_pos rfl]
    cases read : readFile fs p fresh time with
    | ok state =>
      exact load_of_readable fresh time (same.trans there)
        ((readFile_congr fresh time main).trans read)
    | error failure =>
      -- the backup cannot be read either, for the same reason
      rw [load_of_unreadable fresh time (same.trans there)
          ((readFile_congr fresh time main).trans read),
        (FileSystem.contains_congr backup).trans there, if_pos rfl,
        (readFile_congr fresh time backup).trans read]

/--
A save that fails, at whichever of its steps, does not change what is loaded, unless it gives up the
backup of a file that cannot be read.  In that case what is loaded is the failure to read the file.
-/
theorem load_after_failed_save {failure : Failure} (failed : (s.save fs p now).1 = .error failure) :
    let after := (s.save fs p now).2
    ((∀ cause, ¬ GivesUpBackup fs p fresh time cause) →
        load after p fresh time = load fs p fresh time) ∧
      ∀ cause, GivesUpBackup fs p fresh time cause → load after p fresh time = .error cause := by
  have saving := saving s fs p now
  generalize s.save fs p now = result at saving failed
  cases saving with
  | saved => cases failed
  | unprepared unprepared main backup =>
    refine ⟨fun _ => load_congr fresh time main backup, fun cause gives => ?_⟩
    rw [gives.prepared] at unprepared
    cases unprepared
  | unwritten prepared main backup =>
    -- the draft could not be written: the file is as it was, but the backup is a copy of it
    have loaded := load_of_backedUp fresh time main backup
    refine ⟨fun keeps => loaded.trans ?_, fun cause gives => loaded.trans ?_⟩
    · cases there : fs.contains p with
      | false => exact (load_of_missing fresh time there).symm
      | true =>
        rw [if_pos rfl]
        cases read : readFile fs p fresh time with
        | ok state => exact (load_of_readable fresh time there read).symm
        | error cause =>
          -- with a backup to give up, this would be the failure that is excluded
          have none : ¬ fs.contains (backupPath p) = true := fun kept =>
            keeps cause ⟨there, read, kept, prepared⟩
          rw [load_of_unreadable fresh time there read, if_neg none]
    · rw [gives.there, if_pos rfl, gives.unreadable]

/-- The draft is written but may not take the place of the file, which is loaded as before. -/
theorem refused_rename_keeps_load :
    let now : Timestamp := ⟨1700000000, 250000000⟩
    let p : Path := ["organization.json"]
    let fs := { FileSystem.empty with refuses := fun q => q = p }.put p
      (some (.file (some "\x7b\"saved_at\":\"2025-01-01T00:00:00Z\"\x7d")))
    let after := ((empty now).save fs p now).2
    ((empty now).save fs p now).1 = .error .file ∧
      after.contains (draftPath p) = true ∧
      load fs p (fun n => ⟨n⟩) now = .ok (empty ⟨1735689600, 0⟩) ∧
      load after p (fun n => ⟨n⟩) now = load fs p (fun n => ⟨n⟩) now := by
  intro now p fs after
  have failed : ((empty now).save fs p now).1 = .error .file := by decide +kernel
  have read : readFile fs p (fun n => ⟨n⟩) now = .ok (empty ⟨1735689600, 0⟩) := by decide +kernel
  refine ⟨failed, by decide +kernel, by decide +kernel, ?_⟩
  refine (load_after_failed_save (fun n => ⟨n⟩) now failed).1 fun cause gives => ?_
  have unreadable := gives.unreadable
  rw [read] at unreadable
  cases unreadable

/-- A save that fails to write its draft makes a state unloadable: the backup of a file that cannot
be read is gone. -/
theorem failed_save_loses_state :
    let now : Timestamp := ⟨1700000000, 250000000⟩
    let p : Path := ["organization.json"]
    let fs := ((FileSystem.empty.put p (some (.file (some "\x7b not json")))).put (backupPath p)
      (some (.file (some "\x7b\"version\":1,\"saved_at\":\"2025-01-01T00:00:00Z\"\x7d")))).put
      (draftPath p) (some .directory)
    ((empty now).save fs p now).1 = .error .file ∧
      load fs p (fun n => ⟨n⟩) now = .ok (empty ⟨1735689600, 0⟩) ∧
      load ((empty now).save fs p now).2 p (fun n => ⟨n⟩) now = .error .jsonDocument := by
  decide +kernel

end Ensemble.SavedState
