import Ensemble.Coordination.Delegation
import Ensemble.Proofs.Text
import Ensemble.Session.Name

/-!
# Delegated tasks, written and read

A plan is written as blocks among notes (`document`).  Reading goes from left to right, and three
facts about it are enough: a block that is found stands in the text as it is written
(`block?_sound`), what stands between blocks is passed over (`blocks_append`), and a block whose
name is a word and whose body holds no end mark is found whole (`block?_append`).

A session may have a name that is no word, or one that ends in what is taken off a name on reading.
The last part says in full what becomes of the block of such a worker.
-/

namespace Ensemble.Delegation

variable {s after : List Char} {block : Block}

/-! ## What is read stands in the text -/

/-- A block that is found after a worker mark starts with its name, a word, and goes on with its
body and an end mark. -/
theorem block?_sound (found : block? s = some (block, after)) :
    block.name ≠ [] ∧ (∀ c ∈ block.name, Text.isBlank c = false) ∧
      s = block.name ++ block.body ++ endMark ++ after := by
  have solid : ∀ c ∈ s.takeWhile fun c => !Text.isBlank c, Text.isBlank c = false := by
    intro c mem
    rw [← Bool.not_eq_true']
    exact List.mem_takeWhile_imp (p := fun c => !Text.isBlank c) mem
  have whole : s = (s.takeWhile fun c => !Text.isBlank c) ++
      s.drop (s.takeWhile fun c => !Text.isBlank c).length :=
    (List.prefix_iff_eq_append.1 (List.takeWhile_prefix _)).symm
  simp only [block?] at found
  -- Only what the run of solid characters is made of matters from here on.
  generalize s.takeWhile (fun c => !Text.isBlank c) = run at found solid whole
  split at found
  next => cases found
  next some =>
    split at found
    next body later cut =>
      cases found
      refine ⟨fun none => some (List.isEmpty_iff.2 none), solid, ?_⟩
      rw [Text.append_of_cut? cut, ← List.append_assoc, ← List.append_assoc] at whole
      exact whole
    next =>
      split at found
      -- The mark stands in the run itself: the name ends before it and the body is empty.
      next name later cut =>
        split at found
        next => cases found
        next some =>
          cases found
          have parts := Text.append_of_cutLast? cut
          refine ⟨fun none => some (List.isEmpty_iff.2 none), fun c mem => ?_, ?_⟩
          · apply solid
            rw [parts, List.append_assoc]
            exact List.mem_append_left _ mem
          · rw [List.append_nil, ← List.append_assoc, ← parts]
            exact whole
      next => cases found

theorem length_after_le (found : block? s = some (block, after)) : after.length ≤ s.length := by
  obtain ⟨-, -, whole⟩ := block?_sound found
  rw [whole, List.length_append]
  exact Nat.le_add_left _ _

/-! ## From left to right -/

/-- As many steps as there are characters are enough. -/
theorem blocksWithin_congr {steps steps' : Nat} (enough : s.length ≤ steps)
    (enough' : s.length ≤ steps') : blocksWithin steps s = blocksWithin steps' s := by
  induction steps generalizing s steps' with
  | zero =>
    obtain rfl := List.length_eq_zero_iff.1 (Nat.le_zero.1 enough)
    cases steps' <;> rfl
  | succ steps ih =>
    cases s with
    | nil => cases steps' <;> rfl
    | cons c rest =>
      obtain ⟨steps', rfl⟩ := Nat.exists_eq_add_one_of_ne_zero (Nat.ne_zero_of_lt enough')
      rw [List.length_cons] at enough enough'
      have passed : blocksWithin steps rest = blocksWithin steps' rest :=
        ih (Nat.le_of_succ_le_succ enough) (Nat.le_of_succ_le_succ enough')
      simp only [blocksWithin]
      split
      next marked =>
        split
        -- A block leaves less to read than the text that stood behind the first character.
        next block after found =>
          have short : after.length ≤ rest.length := by
            have le := length_after_le found
            have mark : workerMark.length = 8 := rfl
            rw [List.length_drop, mark, List.length_cons] at le
            omega
          rw [ih (Nat.le_trans short (Nat.le_of_succ_le_succ enough))
            (Nat.le_trans short (Nat.le_of_succ_le_succ enough'))]
        next => exact passed
      next => exact passed

/-- What is not marked is passed over. -/
theorem blocks_of_unmarked {c : Char} (unmarked : ¬ workerMark <+: c :: s) :
    blocks (c :: s) = blocks s := by
  rw [blocks, List.length_cons, blocksWithin, if_neg (mt List.isPrefixOf_iff_prefix.1 unmarked)]
  rfl

/-- After a worker mark, a block comes first if there is one, and reading goes on after it. -/
theorem blocks_workerMark (s : List Char) :
    blocks (workerMark ++ s) =
      match block? s with
      | some (block, after) => block :: blocks after
      | none => blocks (workerMark.tail ++ s) := by
  have split : workerMark ++ s = '@' :: (workerMark.tail ++ s) := rfl
  have marked : workerMark.isPrefixOf ('@' :: (workerMark.tail ++ s)) = true :=
    List.isPrefixOf_iff_prefix.2 (List.prefix_append workerMark s)
  have dropped : ('@' :: (workerMark.tail ++ s)).drop workerMark.length = s := by
    rw [← split]
    exact List.drop_left
  rw [blocks, split, List.length_cons, blocksWithin, if_pos marked, dropped]
  -- One step of the reading; its fuel is one less than that of reading the rest afresh.
  cases found : block? s with
  | none => rfl
  | some parts =>
    obtain ⟨block, after⟩ := parts
    have short : after.length ≤ (workerMark.tail ++ s).length := by
      rw [List.length_append]
      exact Nat.le_trans (length_after_le found) (Nat.le_add_left _ _)
    exact congrArg (block :: ·) (blocksWithin_congr short (Nat.le_refl _))

theorem blocks_of_found (found : block? s = some (block, after)) :
    blocks (workerMark ++ s) = block :: blocks after := by
  rw [blocks_workerMark, found]

theorem blocks_of_none (none : block? s = none) :
    blocks (workerMark ++ s) = blocks (workerMark.tail ++ s) := by
  rw [blocks_workerMark, none]

/-- What holds no worker mark and runs into none is passed over. -/
theorem blocks_append {note rest : List Char} (unmarked : ¬ workerMark <:+: note)
    (apart : ∀ c ∈ rest.head?, c ∉ workerMark.tail) : blocks (note ++ rest) = blocks rest := by
  induction note with
  | nil => rfl
  | cons c note ih =>
    rw [List.cons_append, blocks_of_unmarked]
    · exact ih (Text.unmarked_of_cons unmarked)
    · exact Text.not_prefix_append apart (List.cons_ne_nil c note) unmarked

/-! ## Blocks as they are written -/

/-- The block that delegates a task: the name of the worker on the line of the mark, and the task on
lines of its own. -/
def Assignment.written (a : Assignment) : List Char :=
  workerMark ++ a.worker.toList ++ '\n' :: a.task.toList ++ '\n' :: endMark

/-- A word is the name of the block that it starts, and what follows up to the end mark is the
body. -/
theorem block?_append {word body : List Char} (named : word ≠ [])
    (solid : ∀ c ∈ word, Text.isBlank c = false) (stops : ∃ c ∈ body.head?, Text.isBlank c = true)
    (unmarked : ¬ endMark <:+: body) (after : List Char) :
    block? (word ++ (body ++ endMark ++ after)) = some (⟨word, body⟩, after) := by
  obtain ⟨c, start, blank⟩ := stops
  have run : (word ++ (body ++ endMark ++ after)).takeWhile (fun c => !Text.isBlank c) = word := by
    rw [List.takeWhile_append_of_pos]
    · cases body with
      | nil => cases start
      | cons d body =>
        obtain rfl : d = c := Option.some.inj start
        rw [List.cons_append, List.cons_append, List.takeWhile_cons_of_neg, List.append_nil]
        simp [blank]
    · intro c mem
      rw [solid c mem, Bool.not_false]
  -- The end mark does not overlap itself, so that its first occurrence is found.
  have apart : ∀ c ∈ endMark.head?, c ∉ endMark.tail := Text.forall_mem_some (by decide)
  have cut : Text.cut? endMark (body ++ endMark ++ after) = some (body, after) :=
    Text.cut?_append apart unmarked after
  simp only [block?, run, List.drop_left, cut]
  rw [if_neg (mt List.isEmpty_iff.1 named)]

/-! ## Names that a block can spell -/

/-- A name that a block can spell: it is a word, and does not end in what may follow a name. -/
structure Spellable (name : String) : Prop where
  named : name ≠ ""
  solid : ∀ c ∈ name.toList, Text.isBlank c = false
  ending : ∀ c ∈ name.toList.getLast?, isNameEnding c = false

/-- A worker is meant by its name in full, without what follows it. -/
theorem resolve?_of_mem {workers : List String} {name : String} (mem : name ∈ workers)
    (named : name ≠ "") {written : List Char}
    (same : Text.trimEndWhere isNameEnding (Text.trim written) = name.toList) :
    resolve? written workers = some name := by
  have exact : workers.find? (fun w => w.toList == name.toList) = some name := by
    obtain ⟨w, found⟩ : ∃ w, workers.find? (fun w => w.toList == name.toList) = some w :=
      Option.isSome_iff_exists.1 (List.find?_isSome.2 ⟨name, mem, beq_self_eq_true _⟩)
    have chars : w.toList = name.toList :=
      beq_iff_eq.1 (List.find?_some (p := fun w : String => w.toList == name.toList) found)
    rw [found, String.toList_injective chars]
  have some : ¬ name.toList.isEmpty = true := by
    rwa [List.isEmpty_iff, String.toList_eq_nil_iff]
  simp only [resolve?, same, exact, if_neg some]
  rfl

/-- A worker is meant by its name, if a block can spell it. -/
theorem Spellable.resolve? {workers : List String} {name : String} (h : Spellable name)
    (mem : name ∈ workers) : resolve? name.toList workers = some name := by
  apply resolve?_of_mem mem h.named
  rw [Text.trim_eq_self h.solid, Text.trimEndWhere_eq_self h.ending]

/-! ## Plans -/

/-- The text of a plan: a note before each block, and one after the last. -/
def document : List (String × Assignment) → String → List Char
  | [], last => last.toList
  | (note, a) :: rest, last => note.toList ++ (a.written ++ document rest last)

/-- What stands between the name and the end mark of a block holds no end mark. -/
theorem unmarked_lines {task : List Char} (closed : ¬ endMark <:+: task) :
    ¬ endMark <:+: '\n' :: task ++ ['\n'] := by
  rw [List.cons_append]
  apply Text.unmarked_cons (by decide)
  exact Text.unmarked_append (Text.forall_mem_some (by decide)) closed (by decide)

/-- The blocks of a plan are read one after another. -/
theorem blocks_document {plan : List (String × Assignment)} {last : String}
    (notes : ∀ p ∈ plan, ¬ workerMark <:+: p.1.toList) (lastNote : ¬ workerMark <:+: last.toList)
    (names : ∀ p ∈ plan, Spellable p.2.worker)
    (tasks : ∀ p ∈ plan, ¬ endMark <:+: p.2.task.toList) :
    blocks (document plan last) =
      plan.map fun p => ⟨p.2.worker.toList, '\n' :: p.2.task.toList ++ ['\n']⟩ := by
  induction plan with
  | nil =>
    have passed : blocks (last.toList ++ []) = [] := blocks_append lastNote nofun
    rw [List.append_nil] at passed
    exact passed
  | cons p plan ih =>
    obtain ⟨note, a⟩ := p
    simp only [List.forall_mem_cons] at notes names tasks
    -- A note that ends in a part of the mark does not make one with what follows it.
    have apart : ∀ c ∈ (a.written ++ document plan last).head?, c ∉ workerMark.tail :=
      Text.forall_mem_some (by decide)
    have named : a.worker.toList ≠ [] := mt String.toList_eq_nil_iff.1 names.1.named
    have found := block?_append named names.1.solid ⟨'\n', rfl, by decide⟩
      (unmarked_lines tasks.1) (document plan last)
    have split : a.written ++ document plan last = workerMark ++ (a.worker.toList ++
        ('\n' :: a.task.toList ++ ['\n'] ++ endMark ++ document plan last)) := by
      simp [Assignment.written]
    rw [document, blocks_append notes.1 apart, split, blocks_of_found found, List.map_cons,
      ih notes.2 names.2 tasks.2]

/-- A task stands on lines of its own, which trimming takes off. -/
theorem trim_lines (task : List Char) : Text.trim ('\n' :: task ++ ['\n']) = Text.trim task := by
  rw [Text.trim_append_right _ Text.blank_newline]
  exact Text.trim_append_left Text.blank_newline task

/--
A plan is read as it is written.  Its blocks name workers by words that do not end in what may
follow a name, no task holds the end mark, and no note before, between or after the blocks holds the
worker mark: then reading gives the worker and the trimmed task of each block, in order.
-/
theorem assignments_document {workers : List String} {plan : List (String × Assignment)}
    {last : String} (known : ∀ p ∈ plan, p.2.worker ∈ workers)
    (names : ∀ p ∈ plan, Spellable p.2.worker)
    (tasks : ∀ p ∈ plan, ¬ endMark <:+: p.2.task.toList)
    (notes : ∀ p ∈ plan, ¬ workerMark <:+: p.1.toList)
    (lastNote : ¬ workerMark <:+: last.toList) :
    assignments (String.ofList (document plan last)) workers =
      plan.map fun p => ⟨p.2.worker, Text.trimmed p.2.task⟩ := by
  rw [assignments, String.toList_ofList, blocks_document notes lastNote names tasks,
    List.filterMap_map, ← List.filterMap_eq_map]
  apply List.filterMap_congr
  intro p mem
  rw [Function.comp_apply, (names p mem).resolve? (known p mem), Option.map_some, trim_lines]
  rfl

/-- An end mark in a name or in a note, and a worker mark in a task, are no obstacles. -/
theorem marks_in_place :
    let plan : List (String × Assignment) :=
      [("Plan @end\n", ⟨"qa@end", " @worker:dev is next\n"⟩), ("", ⟨"dev", ""⟩)]
    let workers := ["dev", "qa@end"]
    (∀ p ∈ plan, p.2.worker ∈ workers) ∧ (∀ p ∈ plan, Spellable p.2.worker) ∧
      (∀ p ∈ plan, ¬ endMark <:+: p.2.task.toList) ∧
      (∀ p ∈ plan, ¬ workerMark <:+: p.1.toList) ∧ ¬ workerMark <:+: "@work".toList ∧
      assignments (String.ofList (document plan "@work")) workers =
        [⟨"qa@end", "@worker:dev is next"⟩, ⟨"dev", ""⟩] := by
  intro plan workers
  have known : ∀ p ∈ plan, p.2.worker ∈ workers := by decide
  have names : ∀ p ∈ plan, Spellable p.2.worker := by
    simp only [plan, List.forall_mem_cons]
    refine ⟨⟨by decide, Text.solid_of_any rfl, ?_⟩, ⟨by decide, Text.solid_of_any rfl, ?_⟩, nofun⟩
    · exact Text.forall_mem_some rfl
    · exact Text.forall_mem_some rfl
  have tasks : ∀ p ∈ plan, ¬ endMark <:+: p.2.task.toList := by decide
  have notes : ∀ p ∈ plan, ¬ workerMark <:+: p.1.toList := by decide
  have lastNote : ¬ workerMark <:+: "@work".toList := by decide
  have read := assignments_document known names tasks notes lastNote
  exact ⟨known, names, tasks, notes, lastNote, read.trans (by decide)⟩

/-- The empty name is no word: no block is read for it, also if a worker is called so. -/
theorem nameless_block_unread :
    let plan : List (String × Assignment) := [("", ⟨"", "task"⟩)]
    (∀ p ∈ plan, p.2.worker ∈ [""]) ∧
      (∀ p ∈ plan, ∀ c ∈ p.2.worker.toList, Text.isBlank c = false) ∧
      (∀ p ∈ plan, ∀ c ∈ p.2.worker.toList.getLast?, isNameEnding c = false) ∧
      (∀ p ∈ plan, ¬ endMark <:+: p.2.task.toList) ∧
      (∀ p ∈ plan, ¬ workerMark <:+: p.1.toList) ∧ ¬ workerMark <:+: "".toList ∧
      assignments (String.ofList (document plan "")) [""] = [] ∧
      plan.map (fun p => Assignment.mk p.2.worker (Text.trimmed p.2.task)) = [⟨"", "task"⟩] := by
  intro plan
  have solid : ∀ p ∈ plan, ∀ c ∈ p.2.worker.toList, Text.isBlank c = false :=
    List.forall_mem_singleton.2 nofun
  have ending : ∀ p ∈ plan, ∀ c ∈ p.2.worker.toList.getLast?, isNameEnding c = false :=
    List.forall_mem_singleton.2 nofun
  exact ⟨by decide, solid, ending, by decide, by decide, by decide, by decide, by decide⟩

/-! ## The block of a worker with any name -/

/-- A block has a name and an end mark beside its body, so that a body is always less than the text
it is read from. -/
theorem solidCount_body_lt {steps : Nat} (mem : block ∈ blocksWithin steps s) :
    Text.solidCount block.body + Text.solidCount endMark < Text.solidCount s := by
  induction steps generalizing s with
  | zero => cases mem
  | succ steps ih =>
    cases s with
    | nil => cases mem
    | cons c rest =>
      have passed (mem : block ∈ blocksWithin steps rest) :
          Text.solidCount block.body + Text.solidCount endMark < Text.solidCount (c :: rest) :=
        Nat.lt_of_lt_of_le (ih mem) (List.Sublist.countP_le (List.sublist_cons_self c rest))
      simp only [blocksWithin] at mem
      split at mem
      next marked =>
        split at mem
        next first after found =>
          have dropped : Text.solidCount ((c :: rest).drop workerMark.length) ≤
              Text.solidCount (c :: rest) :=
            List.Sublist.countP_le (List.drop_sublist _ _)
          -- The name counts too, and it is not empty: hence strictly less, not only at most as
          -- much.
          obtain ⟨named, solid, whole⟩ := block?_sound found
          have counted := congrArg Text.solidCount whole
          simp only [Text.solidCount_append, Text.solidCount_eq_length solid] at counted
          have some : 0 < first.name.length := List.length_pos_iff.2 named
          rcases List.mem_cons.1 mem with rfl | later
          · omega
          · have inside := ih later
            omega
        next => exact passed mem
      next => exact passed mem

/-- No block starts with a blank. -/
theorem block?_of_blank (blank : ∀ c ∈ s.head?, Text.isBlank c = true) : block? s = none := by
  have run : s.takeWhile (fun c => !Text.isBlank c) = [] := by
    cases s with
    | nil => rfl
    | cons c rest =>
      apply List.takeWhile_cons_of_neg
      simp [blank c rfl]
  simp only [block?, run, List.isEmpty_nil, if_true]

section OwnBlock

variable {name task : String} {word rest : List Char}

/-- In the block of a worker, the first word of the name is read as the name, and what follows it as
the start of the task. -/
theorem blocks_written_of_word (split : name.toList = word ++ rest) (named : word ≠ [])
    (solid : ∀ c ∈ word, Text.isBlank c = false)
    (stops : ∀ c ∈ rest.head?, Text.isBlank c = true) (unmarked : ¬ endMark <:+: rest)
    (closed : ¬ endMark <:+: task.toList) :
    blocks (Assignment.mk name task).written =
      [⟨word, rest ++ ('\n' :: task.toList ++ ['\n'])⟩] := by
  have body : ¬ endMark <:+: rest ++ ('\n' :: task.toList ++ ['\n']) := by
    apply Text.unmarked_append _ unmarked (unmarked_lines closed)
    exact Text.forall_mem_some (by decide)
  have stops' : ∃ c ∈ (rest ++ ('\n' :: task.toList ++ ['\n'])).head?, Text.isBlank c = true := by
    cases rest with
    | nil => exact ⟨'\n', rfl, by decide⟩
    | cons c rest => exact ⟨c, rfl, stops c rfl⟩
  have found := block?_append named solid stops' body []
  have whole : (Assignment.mk name task).written = workerMark ++
      (word ++ (rest ++ ('\n' :: task.toList ++ ['\n']) ++ endMark ++ [])) := by
    simp [Assignment.written, split]
  rw [whole, blocks_of_found found, blocks_nil]

/-- In the block of a worker whose name starts with a blank, the worker mark starts no block. -/
theorem blocks_written_of_blank (stops : ∀ c ∈ name.toList.head?, Text.isBlank c = true)
    (unmarked : ¬ workerMark <:+: name.toList) :
    blocks (Assignment.mk name task).written =
      blocks ('\n' :: task.toList ++ '\n' :: endMark) := by
  have whole : (Assignment.mk name task).written =
      workerMark ++ (name.toList ++ ('\n' :: task.toList ++ '\n' :: endMark)) := by
    simp [Assignment.written]
  have blank : ∀ c ∈ (name.toList ++ ('\n' :: task.toList ++ '\n' :: endMark)).head?,
      Text.isBlank c = true := by
    cases start : name.toList with
    | nil => exact Text.forall_mem_some (by decide)
    | cons c rest =>
      intro d mem
      apply stops
      rw [start]
      exact mem
  have solid : ∀ c ∈ workerMark.tail, Text.isBlank c = false := Text.solid_of_any rfl
  -- The passed mark joins the name that follows it, and makes no second mark with it.
  have passed : ¬ workerMark <:+: workerMark.tail ++ name.toList := by
    apply Text.unmarked_append _ (by decide) unmarked
    intro c start mem
    cases (solid c mem).symm.trans (stops c start)
  rw [whole, blocks_of_none (block?_of_blank blank), ← List.append_assoc, blocks_append passed]
  exact Text.forall_mem_some (by decide)

variable {workers : List String}

/-- What is read of the block of a worker: one assignment, to the worker that the first word of the
name means, if there is one. -/
theorem assignments_written_of_word (split : name.toList = word ++ rest) (named : word ≠ [])
    (solid : ∀ c ∈ word, Text.isBlank c = false)
    (stops : ∀ c ∈ rest.head?, Text.isBlank c = true) (unmarked : ¬ endMark <:+: rest)
    (closed : ¬ endMark <:+: task.toList) :
    assignments (String.ofList (Assignment.mk name task).written) workers =
      ((resolve? word workers).map fun worker =>
        ⟨worker, String.ofList (Text.trim (rest ++ '\n' :: task.toList))⟩).toList := by
  have body : Text.trim (rest ++ ('\n' :: task.toList ++ ['\n'])) =
      Text.trim (rest ++ '\n' :: task.toList) := by
    rw [← List.append_assoc]
    exact Text.trim_append_right _ Text.blank_newline
  rw [assignments, String.toList_ofList,
    blocks_written_of_word split named solid stops unmarked closed]
  simp only [List.filterMap_cons, List.filterMap_nil, body]
  cases resolve? word workers <;> rfl

/-- Text before a task is lost on trimming only if it is blank. -/
theorem trim_append_eq_iff (s t : List Char) :
    Text.trim (s ++ '\n' :: t) = Text.trim t ↔ ∀ c ∈ s, Text.isBlank c = true := by
  constructor
  · intro same
    have counted := congrArg Text.solidCount same
    rw [Text.solidCount_trim, Text.solidCount_trim, List.append_cons, Text.solidCount_append,
      Text.solidCount_append, Text.solidCount_newline] at counted
    apply Text.solidCount_eq_zero_iff.1
    omega
  · intro blank
    rw [Text.trim_append_left blank]
    exact Text.trim_append_left Text.blank_newline t

/-- No block in a task has the whole task for its body. -/
theorem trim_body_ne (mem : block ∈ blocks ('\n' :: task.toList ++ '\n' :: endMark)) :
    Text.trim block.body ≠ Text.trim task.toList := by
  intro same
  have less := solidCount_body_lt mem
  have counted := congrArg Text.solidCount same
  rw [Text.solidCount_trim, Text.solidCount_trim] at counted
  have whole : '\n' :: task.toList ++ '\n' :: endMark =
      ['\n'] ++ task.toList ++ (['\n'] ++ endMark) := rfl
  rw [whole, Text.solidCount_append, Text.solidCount_append, Text.solidCount_append,
    Text.solidCount_newline] at less
  omega

/-- Nothing is read of the block of a worker whose name starts with a blank, and what is read in its
task is less than the task. -/
theorem assignments_written_ne_of_blank (stops : ∀ c ∈ name.toList.head?, Text.isBlank c = true)
    (unmarked : ¬ workerMark <:+: name.toList) :
    assignments (String.ofList (Assignment.mk name task).written) workers ≠
      [⟨name, Text.trimmed task⟩] := by
  intro read
  have mem : (⟨name, Text.trimmed task⟩ : Assignment) ∈
      assignments (String.ofList (Assignment.mk name task).written) workers := by
    rw [read]
    exact List.mem_cons_self
  obtain ⟨block, inside, meant⟩ := List.mem_filterMap.1 mem
  obtain ⟨worker, -, same⟩ := Option.map_eq_some_iff.1 meant
  rw [String.toList_ofList, blocks_written_of_blank stops unmarked] at inside
  exact trim_body_ne inside (String.ofList_injective (congrArg Assignment.task same))

/--
The block that delegates a task to a worker, under any name that a session may have.

Unless a mark stands in the name after its first blank, the block is read as the assignment of the
trimmed task to the worker exactly if only blanks follow the first word of the name and that word
means the worker.  In particular it is read so if the name is a word that does not end in what may
follow a name.  In general the first word is read as the name, and what follows it in the name is
read as the start of the task.
-/
theorem own_block_read (mem : name ∈ workers) (accepted : Session.checkName name = .ok ())
    (closed : ¬ endMark <:+: task.toList) :
    let word := name.toList.takeWhile fun c => !Text.isBlank c
    let rest := name.toList.dropWhile fun c => !Text.isBlank c
    let read := assignments (String.ofList (Assignment.mk name task).written) workers
    (¬ workerMark <:+: rest → ¬ endMark <:+: rest →
      (read = [⟨name, Text.trimmed task⟩] ↔
        word ≠ [] ∧ (∀ c ∈ rest, Text.isBlank c = true) ∧ resolve? word workers = some name)) ∧
    (rest = [] → (∀ c ∈ name.toList.getLast?, isNameEnding c = false) →
      read = [⟨name, Text.trimmed task⟩]) ∧
    (word ≠ [] → ¬ endMark <:+: rest → read =
      ((resolve? word workers).map fun worker =>
        ⟨worker, String.ofList (Text.trim (rest ++ '\n' :: task.toList))⟩).toList) := by
  intro word rest read
  have split : name.toList = word ++ rest := List.takeWhile_append_dropWhile.symm
  have solid : ∀ c ∈ word, Text.isBlank c = false := by
    intro c mem
    rw [← Bool.not_eq_true']
    exact List.mem_takeWhile_imp (p := fun c => !Text.isBlank c) mem
  have stops : ∀ c ∈ rest.head?, Text.isBlank c = true := by
    intro c start
    have stopped := List.head?_dropWhile_not (fun c => !Text.isBlank c) name.toList
    rw [show (name.toList.dropWhile fun c => !Text.isBlank c).head? = some c from start] at stopped
    simpa using stopped
  have general (named : word ≠ []) (unmarked : ¬ endMark <:+: rest) : read =
      ((resolve? word workers).map fun worker =>
        ⟨worker, String.ofList (Text.trim (rest ++ '\n' :: task.toList))⟩).toList :=
    assignments_written_of_word split named solid stops unmarked closed
  have exact_iff (nothing : ¬ workerMark <:+: rest) (unmarked : ¬ endMark <:+: rest) :
      read = [⟨name, Text.trimmed task⟩] ↔
        word ≠ [] ∧ (∀ c ∈ rest, Text.isBlank c = true) ∧ resolve? word workers = some name := by
    by_cases named : word = []
    · -- An empty first word makes a block that is not one of the name.
      have start : name.toList = rest := by rw [split, named, List.nil_append]
      rw [← start] at stops nothing
      exact iff_of_false (assignments_written_ne_of_blank stops nothing) fun some => some.1 named
    · have task_iff : String.ofList (Text.trim (rest ++ '\n' :: task.toList)) =
          Text.trimmed task ↔ ∀ c ∈ rest, Text.isBlank c = true := by
        rw [← trim_append_eq_iff rest task.toList]
        exact ⟨fun same => String.ofList_injective same, congrArg String.ofList⟩
      rw [general named unmarked]
      cases resolve? word workers with
      | none => simp
      | some worker => simp [named, task_iff, and_comm]
  refine ⟨exact_iff, ?_, general⟩
  -- A name without a blank is spellable, and a spellable name is resolved to itself.
  intro whole ending
  have word_eq : word = name.toList := by rw [split, whole, List.append_nil]
  have named : name ≠ "" := by
    rintro rfl
    cases accepted
  have spellable : Spellable name := ⟨named, word_eq ▸ solid, ending⟩
  rw [whole, word_eq] at exact_iff
  apply (exact_iff (by decide) (by decide)).2
  exact ⟨mt String.toList_eq_nil_iff.1 named, nofun, spellable.resolve? mem⟩

end OwnBlock

/-- A name that ends in a point is read as its worker's as long as no other worker is meant by the
rest of it; a blank after the name does not matter. -/
theorem point_and_blank_read :
    let workers := ["dev ", "qa."]
    let task := "Test @worker:dev too"
    ("qa." ∈ workers ∧ "dev " ∈ workers) ∧
      (Session.checkName "qa." = .ok () ∧ Session.checkName "dev " = .ok ()) ∧
      ¬ endMark <:+: task.toList ∧
      assignments (String.ofList (Assignment.mk "qa." task).written) workers = [⟨"qa.", task⟩] ∧
      assignments (String.ofList (Assignment.mk "dev " task).written) workers =
        [⟨"dev ", task⟩] := by
  intro workers task
  have accepted : Session.checkName "qa." = .ok () ∧ Session.checkName "dev " = .ok () := by decide
  have closed : ¬ endMark <:+: task.toList := by decide
  have known : "qa." ∈ workers ∧ "dev " ∈ workers := by decide
  have point := (own_block_read known.1 accepted.1 closed).1 (by decide) (by decide)
  have blank := (own_block_read known.2 accepted.2 closed).1 (by decide) (by decide)
  have trimmed : Text.trimmed task = task := by decide
  rw [trimmed] at point blank
  refine ⟨known, accepted, closed, point.2 ⟨by decide, ?_, by decide⟩,
    blank.2 ⟨by decide, ?_, by decide⟩⟩
  · exact List.all_eq_true.1 (by decide)
  · exact List.all_eq_true.1 (by decide)

/-- The second word of a name is read as the start of the task, and a name that ends in a point is
read as that of another worker who is called the same without it. -/
theorem own_block_misread :
    let workers := ["dev ops", "qa", "qa."]
    workers.Nodup ∧ (∀ name ∈ workers, Session.checkName name = .ok ()) ∧
      ¬ endMark <:+: "ship".toList ∧
      assignments (String.ofList (Assignment.mk "dev ops" "ship").written) workers =
        [⟨"dev ops", "ops\nship"⟩] ∧
      assignments (String.ofList (Assignment.mk "qa." "ship").written) workers =
        [⟨"qa", "ship"⟩] := by
  decide

end Ensemble.Delegation
