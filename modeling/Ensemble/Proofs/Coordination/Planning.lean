import Ensemble.Agent
import Ensemble.Coordination.Prompt
import Ensemble.Proofs.Coordination.Delegation

/-!
# The request to plan, read as a plan

The request to plan shows an orchestrator how to delegate, with a block as an example.  An
orchestrator may repeat the request, and echoing agents do nothing else, so that the request is read
as a plan: it is one, with the example for its only block (`toList_planningPrompt`).  Whether the
example delegates anything depends on the names of the workers.  Its placeholder is matched with
them like any other name, and means every worker whose name holds it or is part of it.
-/

namespace Ensemble.Delegation

/-! ## Names that mean nobody -/

/-- Whether one of two texts is part of the other. -/
theorem overlaps_iff {a b : List Char} : overlaps a b = true ↔ a <:+: b ∨ b <:+: a := by
  rw [overlaps, Bool.or_eq_true, Text.occursIn_iff, Text.occursIn_iff]

/-- A name means nobody exactly if, ignoring case, it is part of no worker's name and no worker's
name is part of it. -/
theorem resolve?_eq_none_iff {written name : List Char} {workers : List String}
    (same : Text.trimEndWhere isNameEnding (Text.trim written) = name) (named : name ≠ []) :
    resolve? written workers = none ↔
      ∀ w ∈ workers, ¬ (Text.lowercase w.toList <:+: Text.lowercase name ∨
        Text.lowercase name <:+: Text.lowercase w.toList) := by
  have some : ¬ name.isEmpty = true := mt List.isEmpty_iff.1 named
  simp only [resolve?, same, if_neg some, Option.orElse_eq_orElse, Option.orElse_eq_or,
    Option.or_eq_none_iff, List.find?_eq_none, beq_iff_eq, overlaps_iff]
  constructor
  · intro none
    exact none.2.2
  · intro apart
    -- whoever is called the same, with or without case, would share the whole name
    refine ⟨fun w mem same => ?_, fun w mem same => ?_, apart⟩
    · exact apart w mem (.inl (same ▸ List.infix_rfl))
    · exact apart w mem (.inl (same ▸ List.infix_rfl))

end Ensemble.Delegation

namespace Ensemble.Coordination

open Delegation (workerMark endMark assignments resolve? Assignment)

/-! ## The parts of the request -/

/-- The task that the request shows how to delegate. -/
def exampleTask : Assignment := ⟨"NAME", "task description"⟩

/-- How the request leads up to the example. -/
def exampleStart : String := "\n\nTo delegate, write one block per task:\n"

/-- What the request adds to the example. -/
def exampleEnd : String := "\nAnything outside these blocks is kept as your own notes."

/-- The request up to the example. -/
def beforeExample (instructions : Option String) (workers : List Member) : String :=
  instructions.getD defaultInstructions ++ "\n\nAvailable workers:" ++
    String.join (workers.map workerLine) ++ exampleStart

/-- The request after the example. -/
def afterExample (request : String) : String :=
  exampleEnd ++ "\n\nRequest:\n" ++ request

/-- The example is a block as it is written. -/
theorem toList_delegationGuide :
    delegationGuide.toList =
      exampleStart.toList ++ (exampleTask.written ++ exampleEnd.toList) := by
  decide +kernel

/-- The request to plan is a plan, in which the example is the only block. -/
theorem toList_planningPrompt (opening : String) (instructions : Option String) (request : String)
    (workers : List Member) :
    (opening ++ planningPrompt instructions request workers).toList =
      Delegation.document [(opening ++ beforeExample instructions workers, exampleTask)]
        (afterExample request) := by
  simp only [planningPrompt, beforeExample, afterExample, Delegation.document,
    String.toList_append, toList_delegationGuide, List.append_assoc]

section Unmarked

variable {opening request : String} {instructions : Option String} {workers : List Member}

/-- A worker is offered on a line without the worker mark, if neither its name nor its model holds
one. -/
theorem unmarked_workerLine {worker : Member} (named : ¬ workerMark <:+: worker.session.toList)
    (model : ∀ model ∈ worker.preferredModel, ¬ workerMark <:+: model.toList) :
    ¬ workerMark <:+: (workerLine worker).toList := by
  rw [workerLine, String.toList_append, String.toList_append, List.append_assoc]
  apply Text.unmarked_append_of_not_mem
  · exact Text.forall_mem_some (by decide)
  cases preferred : worker.preferredModel with
  | none => exact Text.unmarked_append nofun named (by decide)
  | some m =>
    have closed : ¬ workerMark <:+: m.toList ++ ")".toList :=
      Text.unmarked_append (Text.forall_mem_some (by decide)) (model m preferred) (by decide)
    simp only [String.toList_append, List.append_assoc]
    apply Text.unmarked_append _ named
    · apply Text.unmarked_append_of_not_mem _ closed
      exact Text.forall_mem_some (by decide)
    · exact Text.forall_mem_some (by decide)

theorem unmarked_workerLines (named : ∀ w ∈ workers, ¬ workerMark <:+: w.session.toList)
    (models : ∀ w ∈ workers, ∀ model ∈ w.preferredModel, ¬ workerMark <:+: model.toList) :
    ¬ workerMark <:+: (String.join (workers.map workerLine)).toList := by
  rw [String.toList_join, List.flatMap_map]
  induction workers with
  | nil => decide
  | cons w workers ih =>
    simp only [List.forall_mem_cons] at named models
    rw [List.flatMap_cons]
    apply Text.unmarked_append _ (unmarked_workerLine named.1 models.1) (ih named.2 models.2)
    -- each line starts with a line feed, and none follows the last
    cases workers with
    | nil => exact nofun
    | cons next workers =>
      rw [List.flatMap_cons, workerLine, String.toList_append, String.toList_append]
      exact Text.forall_mem_some (by decide)

theorem unmarked_defaultInstructions : ¬ workerMark <:+: defaultInstructions.toList := by
  decide +kernel

/-- Nothing before the example delegates. -/
theorem unmarked_beforeExample
    (instructed : ¬ workerMark <:+: (opening ++ instructions.getD defaultInstructions).toList)
    (named : ∀ w ∈ workers, ¬ workerMark <:+: w.session.toList)
    (models : ∀ w ∈ workers, ∀ model ∈ w.preferredModel, ¬ workerMark <:+: model.toList) :
    ¬ workerMark <:+: (opening ++ beforeExample instructions workers).toList := by
  have written : (opening ++ beforeExample instructions workers).toList =
      (opening ++ instructions.getD defaultInstructions).toList ++
        ("\n\nAvailable workers:".toList ++ ((String.join (workers.map workerLine)).toList ++
          exampleStart.toList)) := by
    simp only [beforeExample, String.toList_append, List.append_assoc]
  have offered : ¬ workerMark <:+:
      (String.join (workers.map workerLine)).toList ++ exampleStart.toList :=
    Text.unmarked_append (Text.forall_mem_some (by decide)) (unmarked_workerLines named models)
      (by decide)
  rw [written]
  apply Text.unmarked_append _ instructed
  · apply Text.unmarked_append_of_not_mem _ offered
    exact Text.forall_mem_some (by decide)
  · exact Text.forall_mem_some (by decide)

/-- Nothing after the example delegates. -/
theorem unmarked_afterExample (requested : ¬ workerMark <:+: request.toList) :
    ¬ workerMark <:+: (afterExample request).toList := by
  rw [afterExample, String.toList_append, String.toList_append, List.append_assoc]
  apply Text.unmarked_append_of_not_mem
  · exact Text.forall_mem_some (by decide)
  apply Text.unmarked_append_of_not_mem _ requested
  exact Text.forall_mem_some (by decide)

/-! ## What the request delegates -/

/-- The request to plan is read as the example of a task, for whoever its placeholder means. -/
theorem assignments_planningPrompt {names : List String}
    (instructed : ¬ workerMark <:+: (opening ++ instructions.getD defaultInstructions).toList)
    (requested : ¬ workerMark <:+: request.toList)
    (named : ∀ w ∈ workers, ¬ workerMark <:+: w.session.toList)
    (models : ∀ w ∈ workers, ∀ model ∈ w.preferredModel, ¬ workerMark <:+: model.toList) :
    assignments (opening ++ planningPrompt instructions request workers) names =
      ((resolve? exampleTask.worker.toList names).map fun worker =>
        ⟨worker, exampleTask.task⟩).toList := by
  have before := unmarked_beforeExample instructed named models
  have spelled : Delegation.Spellable exampleTask.worker :=
    ⟨by decide, Text.solid_of_any rfl, Text.forall_mem_some rfl⟩
  have closed : ¬ endMark <:+: exampleTask.task.toList := by decide
  have blocks : Delegation.blocks (Delegation.document
      [(opening ++ beforeExample instructions workers, exampleTask)] (afterExample request)) =
        [⟨exampleTask.worker.toList, '\n' :: exampleTask.task.toList ++ ['\n']⟩] :=
    Delegation.blocks_document (List.forall_mem_singleton.2 before)
      (unmarked_afterExample requested) (List.forall_mem_singleton.2 spelled)
      (List.forall_mem_singleton.2 closed)
  have task : String.ofList (Text.trim ('\n' :: exampleTask.task.toList ++ ['\n'])) =
      exampleTask.task := by decide
  rw [assignments, toList_planningPrompt, blocks, List.filterMap_cons, List.filterMap_nil]
  simp only [task]
  cases resolve? exampleTask.worker.toList names <;> rfl

/-- The placeholder means nobody exactly if, ignoring case, it is part of no worker's name and no
worker's name is part of it. -/
theorem resolve?_exampleTask_eq_none_iff {names : List String} :
    resolve? exampleTask.worker.toList names = none ↔
      ∀ name ∈ names, ¬ (Text.lowercase name.toList <:+: "name".toList ∨
        "name".toList <:+: Text.lowercase name.toList) := by
  have same : Text.trimEndWhere Delegation.isNameEnding (Text.trim exampleTask.worker.toList) =
      "NAME".toList := by decide
  have lowered : Text.lowercase "NAME".toList = "name".toList := by decide
  rw [Delegation.resolve?_eq_none_iff same (by decide), lowered]

/--
What an orchestrator delegates that repeats the request to plan.  The worker mark occurs neither in
its instructions nor in the request, nor in the names and models of the workers.  Then the example
is the only block.  It is delegated to the worker that its placeholder means, so that nothing is
delegated exactly if no worker's name, ignoring case, holds the placeholder or is part of it.  An
opening before the request makes no difference, unless the mark comes up where the two meet.
-/
theorem repeated_request_delegates
    (instructed : ∀ text ∈ instructions, ¬ workerMark <:+: text.toList)
    (requested : ¬ workerMark <:+: request.toList)
    (named : ∀ w ∈ workers, ¬ workerMark <:+: w.session.toList)
    (models : ∀ w ∈ workers, ∀ model ∈ w.preferredModel, ¬ workerMark <:+: model.toList) :
    let names := workers.map (·.session)
    let prompt := planningPrompt instructions request workers
    (assignments prompt names = [] ↔ ∀ name ∈ names,
      ¬ (Text.lowercase name.toList <:+: "name".toList ∨
        "name".toList <:+: Text.lowercase name.toList)) ∧
    assignments prompt names = ((resolve? exampleTask.worker.toList names).map fun worker =>
      ⟨worker, exampleTask.task⟩).toList ∧
    ∀ opening, ¬ workerMark <:+: (opening ++ instructions.getD defaultInstructions).toList →
      assignments (Agents.echo opening prompt) names = assignments prompt names := by
  intro names prompt
  have instructed : ¬ workerMark <:+: ("" ++ instructions.getD defaultInstructions).toList := by
    rw [String.empty_append]
    cases instructions with
    | none => exact unmarked_defaultInstructions
    | some text => exact instructed text rfl
  have read : assignments prompt names = ((resolve? exampleTask.worker.toList names).map
      fun worker => ⟨worker, exampleTask.task⟩).toList := by
    rw [← assignments_planningPrompt instructed requested named models, String.empty_append]
  -- The example block is the only one that is read, with or without a text in front.
  refine ⟨?_, read, fun opening opened => ?_⟩
  · rw [read, ← resolve?_exampleTask_eq_none_iff, Option.toList_eq_nil_iff, Option.map_eq_none_iff]
  · rw [read]
    exact assignments_planningPrompt opened requested named models

end Unmarked

/-- Workers whose names share nothing with the placeholder get nothing from a repeated request, with
the mark all but written out in it. -/
theorem unlike_names_get_nothing :
    let workers : List Member :=
      [{ Member.create "alice" ⟨1⟩ with preferredModel := some "opus:" }, .create "Bob@worker" ⟨1⟩]
    let instructions := some "Write @worker"
    let prompt := planningPrompt instructions "worker: Build it" workers
    (∀ text ∈ instructions, ¬ workerMark <:+: text.toList) ∧
      ¬ workerMark <:+: "worker: Build it".toList ∧
      (∀ w ∈ workers, ¬ workerMark <:+: w.session.toList) ∧
      (∀ w ∈ workers, ∀ model ∈ w.preferredModel, ¬ workerMark <:+: model.toList) ∧
      assignments prompt ["alice", "Bob@worker"] = [] ∧
      assignments (Agents.echo Agents.defaultOpening prompt) ["alice", "Bob@worker"] = [] := by
  intro workers instructions prompt
  have instructed : ∀ text ∈ instructions, ¬ workerMark <:+: text.toList := by decide
  have requested : ¬ workerMark <:+: "worker: Build it".toList := by decide
  have named : ∀ w ∈ workers, ¬ workerMark <:+: w.session.toList := by decide
  have models : ∀ w ∈ workers, ∀ model ∈ w.preferredModel, ¬ workerMark <:+: model.toList := by
    decide
  obtain ⟨nothing_iff, -, echoed⟩ :=
    repeated_request_delegates instructed requested named models
  have nothing := nothing_iff.2 (by decide)
  exact ⟨instructed, requested, named, models, nothing, (echoed _ (by decide)).trans nothing⟩

/-- A worker whose name holds the placeholder is given the task of the example. -/
theorem placeholder_means_worker :
    let workers : List Member := [.create "renamer" ⟨1⟩]
    ¬ workerMark <:+: "Build it".toList ∧
      (∀ w ∈ workers, ¬ workerMark <:+: w.session.toList) ∧
      (∀ w ∈ workers, ∀ model ∈ w.preferredModel, ¬ workerMark <:+: model.toList) ∧
      assignments (planningPrompt none "Build it" workers) (workers.map (·.session)) =
        [⟨"renamer", "task description"⟩] := by
  intro workers
  have requested : ¬ workerMark <:+: "Build it".toList := by decide
  have named : ∀ w ∈ workers, ¬ workerMark <:+: w.session.toList := by decide
  have models : ∀ w ∈ workers, ∀ model ∈ w.preferredModel, ¬ workerMark <:+: model.toList := by
    decide
  have instructed : ¬ workerMark <:+: ("" ++ none.getD defaultInstructions).toList := by
    rw [String.empty_append]
    exact unmarked_defaultInstructions
  refine ⟨requested, named, models, ?_⟩
  rw [← String.empty_append (s := planningPrompt none "Build it" workers),
    assignments_planningPrompt instructed requested named models]
  decide

end Ensemble.Coordination
