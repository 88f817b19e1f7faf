import Ensemble.Failure

/-!
# A file system as a value

A file system says what stands at each path, and at which paths nothing can be put.  Operations on
it are functions to the file system afterwards; one that cannot be done fails and says so.  A path
lists the names on the way from the root, which is a directory.

The view of a file system is `FileSystem.node?`: `node?_put` and `node?_put_of_ne` say what changing
one path does to it.
-/

namespace Ensemble

/-- The names on the way to a file or directory. -/
abbrev Path : Type := List String

namespace Path

/-- The directory that a path is in. -/
def parent (p : Path) : Path :=
  p.dropLast

/-- A name without its last ending; a point at the start of a name begins no ending. -/
def stem (name : String) : List Char :=
  match Text.cutLast? ['.'] name.toList with
  | some ([], _) => name.toList
  | some (before, _) => before
  | none => name.toList

/-- The last name of a path; the root has none, and neither has a path that ends in a way up. -/
def name? (p : Path) : Option String :=
  p.getLast?.filter (· != "..")

/-- The path with another ending of its last name. -/
def withEnding (p : Path) (ending : String) : Path :=
  match p.name? with
  | none => p
  | some name => p.parent ++ [String.ofList (stem name ++ '.' :: ending.toList)]

end Path

/-- What stands at a path. -/
inductive FileNode where
  /-- A file, and its text if its content is one. -/
  | file (text : Option String)
  | directory
  deriving DecidableEq, Repr

/-- What stands at each path, and where nothing can be put. -/
structure FileSystem where
  node? : Path → Option FileNode
  /-- Whether there is no leave or no room to put anything at a path. -/
  refuses : Path → Bool := fun _ => false

namespace FileSystem

/-- The file system with nothing but its root. -/
def empty : FileSystem :=
  { node? := fun p => if p = [] then some .directory else none }

/-- Whether anything stands at a path. -/
def contains (fs : FileSystem) (p : Path) : Bool :=
  (fs.node? p).isSome

/-- The file system with another node at a path, or none. -/
def put (fs : FileSystem) (p : Path) (node : Option FileNode) : FileSystem :=
  { fs with node? := fun q => if q = p then node else fs.node? q }

/-- The text of a file. -/
def read (fs : FileSystem) (p : Path) : Attempt String :=
  match fs.node? p with
  | some (.file (some text)) => .ok text
  | _ => .error .file

/-- Whether a file can be put at a path: the path has a name in a directory, no directory stands
there, and it is not refused. -/
def canHold (fs : FileSystem) (p : Path) : Bool :=
  p.name?.isSome && fs.node? p.parent == some .directory && fs.node? p != some .directory &&
    !fs.refuses p

/-- Puts a file at a path, in place of the one there. -/
def putFile (fs : FileSystem) (p : Path) (text : Option String) : Attempt Unit × FileSystem :=
  if fs.canHold p then (.ok (), fs.put p (some (.file text))) else (.error .file, fs)

/-- Writes a text into a file. -/
def write (fs : FileSystem) (p : Path) (text : String) : Attempt Unit × FileSystem :=
  fs.putFile p (some text)

/-- Copies a file. -/
def copy (fs : FileSystem) (source target : Path) : Attempt Unit × FileSystem :=
  match fs.node? source with
  | some (.file text) => fs.putFile target text
  | _ => (.error .file, fs)

/-- Moves a file, in place of one that stands at the target. -/
def rename (fs : FileSystem) (source target : Path) : Attempt Unit × FileSystem :=
  match fs.node? source with
  | some (.file text) =>
    match fs.putFile target text with
    | (.ok (), after) =>
      (.ok (), if source = target then after else after.put source none)
    | failed => failed
  | _ => (.error .file, fs)

/-- Makes a directory where there is none. -/
def makeDirectory (fs : FileSystem) (p : Path) : Attempt Unit × FileSystem :=
  match fs.node? p with
  | some .directory => (.ok (), fs)
  | some (.file _) => (.error .file, fs)
  | none => if fs.refuses p then (.error .file, fs) else (.ok (), fs.put p (some .directory))

/-- Makes directories one below the other, from a path on. -/
def makeBelow (fs : FileSystem) (done : Path) : Path → Attempt Unit × FileSystem
  | [] => (.ok (), fs)
  | name :: rest =>
    match fs.makeDirectory (done ++ [name]) with
    | (.ok (), after) => makeBelow after (done ++ [name]) rest
    | failed => failed

/-- Makes a directory together with those it is in. -/
def makeDirectories (fs : FileSystem) (p : Path) : Attempt Unit × FileSystem :=
  fs.makeBelow [] p

/-- Makes a directory with those it is in unless something stands at the path. -/
def ensureDirectory (fs : FileSystem) (p : Path) : Attempt Unit × FileSystem :=
  if fs.contains p then (.ok (), fs) else fs.makeDirectories p

/-- Takes away what stands at a path. -/
def remove (fs : FileSystem) (p : Path) : FileSystem :=
  fs.put p none

/-- Carries on with a file system if all went well so far. -/
def andThen (done : Attempt Unit × FileSystem)
    (next : FileSystem → Attempt Unit × FileSystem) : Attempt Unit × FileSystem :=
  match done.1 with
  | .ok () => next done.2
  | .error failure => (.error failure, done.2)

/-- What has been put at a path stands there. -/
@[simp] theorem node?_put (fs : FileSystem) (p : Path) (node : Option FileNode) :
    (fs.put p node).node? p = node := by
  simp [put]

/-- Elsewhere nothing has changed. -/
theorem node?_put_of_ne (fs : FileSystem) {p q : Path} (h : q ≠ p) (node : Option FileNode) :
    (fs.put p node).node? q = fs.node? q := by
  simp [put, h]

end FileSystem

end Ensemble
