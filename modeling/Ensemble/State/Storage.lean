import Ensemble.FileSystem
import Ensemble.State.Document

/-!
# Keeping a state in a file

Saving keeps the file that was there as a backup, writes the new document beside it, and then puts
it in the place of the old one.  Loading falls back on the backup if the file cannot be read.  If
there is no file, there is nothing to load, and the state is empty.
-/

namespace Ensemble.SavedState

/-- Where the backup of a file is kept. -/
def backupPath (p : Path) : Path :=
  p.withEnding "json.bak"

/-- Where a document is written before it takes the place of a file. -/
def draftPath (p : Path) : Path :=
  p.withEnding "json.tmp"

/-- Reads the state in a file. -/
def readFile (fs : FileSystem) (p : Path) (fresh : Nat → Id) (now : Timestamp) :
    Attempt SavedState := do
  read fresh now (← fs.read p)

/-- Loads the state kept in a file. -/
def load (fs : FileSystem) (p : Path) (fresh : Nat → Id) (now : Timestamp) : Attempt SavedState :=
  if !fs.contains p then .ok (empty now)
  else
    match readFile fs p fresh now with
    | .ok state => .ok state
    | .error failure =>
      if fs.contains (backupPath p) then readFile fs (backupPath p) fresh now else .error failure

/-- Copies a file, if there is one, to its backup. -/
def backUp (fs : FileSystem) (p : Path) : Attempt Unit × FileSystem :=
  if fs.contains p then fs.copy p (backupPath p) else (.ok (), fs)

/-- Makes the directory that a file is to be in, unless that is the root. -/
def makeRoom (fs : FileSystem) (p : Path) : Attempt Unit × FileSystem :=
  if p.parent.isEmpty then (.ok (), fs) else fs.ensureDirectory p.parent

/-- All that is done before a new document is written. -/
def prepare (fs : FileSystem) (p : Path) : Attempt Unit × FileSystem :=
  FileSystem.andThen (makeRoom fs p) fun fs => backUp fs p

/-- The state as it is saved: it notes when that was. -/
def stamped (s : SavedState) (now : Timestamp) : SavedState :=
  { s with savedAt := now }

/-- Saves a state into a file. -/
def save (s : SavedState) (fs : FileSystem) (p : Path) (now : Timestamp) :
    Attempt Unit × FileSystem :=
  FileSystem.andThen (prepare fs p) fun fs =>
    FileSystem.andThen (fs.write (draftPath p) (s.stamped now).write) fun fs =>
      fs.rename (draftPath p) p

end Ensemble.SavedState
