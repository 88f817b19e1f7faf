import Ensemble.Proofs.State.Storage

/-!
# What is due to be loaded

A state is kept in a file and in the backup of that file, and each of them may be absent, unreadable
or good.  What is due is the file if it reads, the backup otherwise, the empty state if neither is
there, and a failure in all other cases (`due?`).

Loading looks at the backup only after it has found a file.  So it gives what is due whenever there
is a file (`toOption_load_of_there`), and where there is none it gives the empty state, which need
not be due (`load_due_iff`).
-/

namespace Ensemble.SavedState

variable (fs : FileSystem) (p : Path) (fresh : Nat → Id) (time : Timestamp)

/-- The state that is due to be loaded; none if loading is to fail. -/
def due? : Option SavedState :=
  match readFile fs p fresh time, readFile fs (backupPath p) fresh time with
  | .ok state, _ => some state
  | .error _, .ok state => some state
  | .error _, .error _ =>
    if fs.contains p || fs.contains (backupPath p) then none else some (empty time)

variable {fs p fresh time}

/-- What can be read is there. -/
theorem contains_of_readable {state : SavedState} (h : readFile fs p fresh time = .ok state) :
    fs.contains p = true := by
  cases node : fs.node? p with
  | none =>
    rw [readFile, FileSystem.read, node] at h
    cases h
  | some _ => rw [FileSystem.contains, node, Option.isSome_some]

theorem unreadable_of_missing (missing : fs.contains p = false) :
    ∃ failure, readFile fs p fresh time = .error failure := by
  cases read : readFile fs p fresh time with
  | error failure => exact ⟨failure, rfl⟩
  | ok state =>
    rw [contains_of_readable read] at missing
    cases missing

/-- Where there is a file, what is due is loaded. -/
theorem toOption_load_of_there (there : fs.contains p = true) :
    (load fs p fresh time).toOption = due? fs p fresh time := by
  unfold due?
  cases main : readFile fs p fresh time with
  | ok state =>
    rw [load_of_readable fresh time there main]
    rfl
  | error failure =>
    rw [load_of_unreadable fresh time there main]
    -- The backup counts only when the main file is there and cannot be read.
    cases backup : readFile fs (backupPath p) fresh time with
    | ok state =>
      rw [contains_of_readable backup]
      rfl
    | error =>
      rw [there]
      split <;> rfl

/-- Where there is no file, the backup is due if there is one. -/
theorem due?_of_missing (missing : fs.contains p = false) :
    due? fs p fresh time =
      if fs.contains (backupPath p) then (readFile fs (backupPath p) fresh time).toOption
      else some (empty time) := by
  obtain ⟨failure, main⟩ : ∃ failure, readFile fs p fresh time = .error failure :=
    unreadable_of_missing missing
  unfold due?
  rw [main, missing, Bool.false_or]
  cases backup : readFile fs (backupPath p) fresh time with
  | ok state =>
    rw [contains_of_readable backup]
    rfl
  | error => rfl

/--
What is due is loaded, unless there is a backup without its file: then the empty state is loaded,
which is due only if the backup reads as that.
-/
theorem load_due_iff (fs : FileSystem) (p : Path) (fresh : Nat → Id) (time : Timestamp) :
    ((load fs p fresh time).toOption = due? fs p fresh time ↔
        fs.contains p = true ∨ fs.contains (backupPath p) = false ∨
          readFile fs (backupPath p) fresh time = .ok (empty time)) ∧
      (fs.contains p = false → load fs p fresh time = .ok (empty time)) := by
  refine ⟨?_, load_of_missing fresh time⟩
  cases there : fs.contains p with
  | true => simp [toOption_load_of_there there]
  | false =>
    rw [load_of_missing fresh time there, due?_of_missing there]
    cases fs.contains (backupPath p) with
    | false => simp [Except.toOption]
    | true =>
      cases readFile fs (backupPath p) fresh time with
      | ok state => simp [Except.toOption, eq_comm]
      | error => simp [Except.toOption]

/-- A backup without its file is not loaded. -/
theorem lone_backup_not_loaded :
    let now : Timestamp := ⟨1700000000, 250000000⟩
    let p : Path := ["organization.json"]
    let fs := FileSystem.empty.put (backupPath p)
      (some (.file (some "\x7b\"version\":7,\"saved_at\":\"2025-01-01T00:00:00Z\"\x7d")))
    let kept := { empty ⟨1735689600, 0⟩ with version := 7 }
    readFile fs (backupPath p) (fun n => ⟨n⟩) now = .ok kept ∧
      due? fs p (fun n => ⟨n⟩) now = some kept ∧
      load fs p (fun n => ⟨n⟩) now = .ok (empty now) ∧ kept ≠ empty now := by
  decide +kernel

end Ensemble.SavedState
