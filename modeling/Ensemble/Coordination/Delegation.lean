import Ensemble.Text.Lowercase
import Ensemble.Text.Blank

/-!
# Delegated tasks

An orchestrator delegates by writing blocks among its notes:

    @worker:NAME
    what to do
    @end

The name is the longest run of characters after the mark that are not blank, and the task is what
stands between it and the next end mark.  If no end mark follows the run, one inside the run may end
a block without a task.  Blocks are found from left to right and do not overlap.

A name is matched with the workers in three rounds: as it is, ignoring case, and as part of the
worker's name or the other way round.  A block that names no worker is dropped.
-/

namespace Ensemble.Delegation

/-- A task for a worker. -/
structure Assignment where
  worker : String
  task : String
  deriving DecidableEq, Repr

/-- The mark before the name of a worker. -/
def workerMark : List Char := "@worker:".toList

/-- The mark after a task. -/
def endMark : List Char := "@end".toList

/-- A block: the name as it is written, and what stands between the name and the end mark. -/
structure Block where
  name : List Char
  body : List Char
  deriving DecidableEq, Repr

/-- The block after a worker mark, and the text after it. -/
def block? (s : List Char) : Option (Block × List Char) :=
  let run := s.takeWhile fun c => !Text.isBlank c
  let rest := s.drop run.length
  if run.isEmpty then none
  else
    match Text.cut? endMark rest with
    | some (body, after) => some (⟨run, body⟩, after)
    | none =>
      match Text.cutLast? endMark run with
      | some (name, after) => if name.isEmpty then none else some (⟨name, []⟩, after ++ rest)
      | none => none

/-- The blocks of a text, found in at most `steps` steps. -/
def blocksWithin : Nat → List Char → List Block
  | 0, _ => []
  | _, [] => []
  | steps + 1, c :: rest =>
    if workerMark.isPrefixOf (c :: rest) then
      match block? ((c :: rest).drop workerMark.length) with
      | some (block, after) => block :: blocksWithin steps after
      | none => blocksWithin steps rest
    else blocksWithin steps rest

/-- The blocks of a text. -/
def blocks (text : List Char) : List Block :=
  blocksWithin text.length text

/-- The characters that may follow a name. -/
def isNameEnding (c : Char) : Bool :=
  c == ':' || c == ',' || c == '.'

/-- Whether one of two texts in lower case is part of the other. -/
def overlaps (a b : List Char) : Bool :=
  Text.occursIn a b || Text.occursIn b a

/-- The worker that a name means. -/
def resolve? (name : List Char) (workers : List String) : Option String :=
  let name := Text.trimEndWhere isNameEnding (Text.trim name)
  let lowered := Text.lowercase name
  if name.isEmpty then none
  else
    (workers.find? fun w => w.toList == name) <|>
    (workers.find? fun w => Text.lowercase w.toList == lowered) <|>
    (workers.find? fun w => overlaps (Text.lowercase w.toList) lowered)

/-- The tasks that a text delegates to workers. -/
def assignments (text : String) (workers : List String) : List Assignment :=
  (blocks text.toList).filterMap fun block =>
    (resolve? block.name workers).map fun worker =>
      ⟨worker, String.ofList (Text.trim block.body)⟩

/-- A text of no characters delegates nothing. -/
@[simp] theorem blocks_nil : blocks [] = [] := rfl

end Ensemble.Delegation
