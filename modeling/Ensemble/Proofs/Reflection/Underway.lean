import Ensemble.Proofs.Reflection.Lifecycle
import Ensemble.Reflection.Iteration

/-!
# Iterations under way

Between the step that begins an iteration and the one that concludes it or gives it back, the
iteration is under way, and several may be at once.  `Cycle.Accounts` relates their number to what a
cycle counts: an iteration is given back only while it is under way, so that a cycle that has taken
in a response does not come back to its first iteration, and one that has not holds no advice but to
try again.

The prompt of every iteration but the first tells the adjustments (`Cycle.tells_adjustments`).
-/

namespace Ensemble.Reflection.Cycle

/-! ## The iterations of a cycle -/

/-- A cycle accounts for a number of iterations under way: as long as it is active these have been
begun, and one more if it has taken in a response; and until it has, there is only advice to try
again. -/
structure Accounts (c : Cycle) (underway : Nat) : Prop where
  begun : c.isActive = true → underway + c.lastResponse.isSome.toNat ≤ c.currentIteration
  advice : c.lastResponse = none → ∀ a ∈ c.adjustments, a = retryAdjustment

/-- A cycle that is set up accounts for no iteration. -/
theorem Fresh.accounts {c : Cycle} (fresh : c.Fresh) (clear : c.adjustments = []) :
    c.Accounts 0 where
  begun := fun _ => by simp [fresh.response]
  advice := fun _ => by simp [clear]

/-- An active cycle that is not paused gives an iteration, and the adjustments with it. -/
theorem takeIteration_of_active {c : Cycle} (active : c.isActive = true)
    (unpaused : c.isPaused = false) :
    c.takeIteration = (.ok ⟨c.iterationPrompt, c.evaluator⟩,
      { c with adjustments := [], currentIteration := c.nextIteration }) := by
  simp [takeIteration, active, unpaused, begin, dropAdjustments, nextIteration]

/-- A cycle that is over or paused gives nothing. -/
theorem takeIteration_of_unready {c : Cycle} (unready : c.isActive = false ∨ c.isPaused = true) :
    ∃ outcome, c.takeIteration = (.error outcome, c) := by
  unfold takeIteration
  cases active : c.isActive with
  | false => exact ⟨_, rfl⟩
  | true =>
    have paused : c.isPaused = true := unready.resolve_left (by simp [active])
    exact ⟨.paused, by simp [paused]⟩

/-- Taking in a response leaves a cycle with a response, in the iteration that it was in. -/
theorem settle_answers (c : Cycle) (response : String) (goalMet : Bool) (now : Timestamp) :
    (c.settle response goalMet now).2.lastResponse = some response := by
  have settling := c.settle_settling response goalMet now
  generalize c.settle response goalMet now = ended at settling
  cases settling <;> rfl

namespace Accounts

variable {c : Cycle} {n : Nat}

/-- A cycle that accounts for some iterations accounts for fewer. -/
theorem mono {m : Nat} (accounts : c.Accounts n) (le : m ≤ n) : c.Accounts m where
  begun := fun active => Nat.le_trans (Nat.add_le_add_right le _) (accounts.begun active)
  advice := accounts.advice

/-- In the first iteration of an active cycle nothing is under way, and nothing was taken in. -/
theorem first (accounts : c.Accounts n) (active : c.isActive = true)
    (first : c.currentIteration = 0) :
    c.lastResponse = none ∧ ∀ a ∈ c.adjustments, a = retryAdjustment := by
  have begun := accounts.begun active
  have silent : c.lastResponse = none := by
    cases response : c.lastResponse with
    | none => rfl
    | some _ =>
      rw [response, first] at begun
      exact absurd begun (by simp)
  exact ⟨silent, accounts.advice silent⟩

/-- One more iteration is under way, if there is a number left for it. -/
theorem takeIteration (accounts : c.Accounts n) (active : c.isActive = true)
    (unpaused : c.isPaused = false) (room : c.currentIteration < maxWord32) :
    c.takeIteration.2.Accounts (n + 1) := by
  have counted : c.nextIteration = c.currentIteration + 1 := wrap_of_le room
  rw [takeIteration_of_active active unpaused, counted]
  refine ⟨fun _ => ?_, fun _ a mem => by cases mem⟩
  have begun := accounts.begun active
  simp only
  omega

/-- Settling an iteration leaves the others accounted for. -/
theorem settle (begun : n + 1 ≤ c.currentIteration) (response : String) (goalMet : Bool)
    (now : Timestamp) : (c.settle response goalMet now).2.Accounts n := by
  have answers := c.settle_answers response goalMet now
  refine ⟨fun _ => ?_, fun silent => ?_⟩
  · rw [answers, (c.settle_same response now goalMet).currentIteration]
    exact begun
  · rw [answers] at silent
    cases silent

/-- An iteration that was under way is concluded. -/
theorem conclude (accounts : c.Accounts (n + 1)) (response : String) (now : Timestamp) :
    (c.conclude response now).2.Accounts n := by
  cases active : c.isActive with
  | false =>
    rw [conclude_of_inactive active]
    exact accounts.mono (Nat.le_succ n)
  | true =>
    rw [Cycle.conclude, if_pos active]
    exact settle (Nat.le_trans (Nat.le_add_right _ _) (accounts.begun active)) ..

/-- Concluding with an evaluation uses up one iteration that is underway. -/
theorem concludeWith (accounts : c.Accounts (n + 1)) (response : String) (evaluation : Evaluation)
    (model : Option String) (now : Timestamp) :
    (c.concludeWith response evaluation model now).2.Accounts n := by
  cases active : c.isActive with
  | false =>
    rw [concludeWith_of_inactive active]
    exact accounts.mono (Nat.le_succ n)
  | true =>
    obtain ⟨history, feedback, adjustments, taken⟩ :=
      concludeWith_of_active active response evaluation model now
    rw [taken]
    exact settle (c := { c with history, feedback, adjustments })
      (Nat.le_trans (Nat.le_add_right _ _) (accounts.begun active)) ..

/-- An iteration that was under way is given back. -/
theorem retry (accounts : c.Accounts (n + 1)) (now : Timestamp) : (c.retry now).2.Accounts n := by
  cases active : c.isActive with
  | false =>
    rw [retry_of_inactive active]
    exact accounts.mono (Nat.le_succ n)
  | true =>
    have begun := accounts.begun active
    rw [Cycle.retry, if_pos active]
    -- the iteration is given back in any case, and with the last stall the cycle ends
    rcases Nat.lt_or_ge (c.nextStall) c.stallThreshold with few | last
    · rw [countStall_of_few (c := { c with currentIteration := c.currentIteration - 1 }) few]
      refine ⟨fun _ => ?_, fun silent a mem => ?_⟩
      · simp only
        omega
      · exact (List.mem_append.1 mem).elim (accounts.advice silent a) List.mem_singleton.1
    · rw [countStall_of_last (c := { c with currentIteration := c.currentIteration - 1 }) last]
      exact ⟨fun active => (by cases active), accounts.advice⟩

/-- Pausing changes no account. -/
theorem pause (accounts : c.Accounts n) : c.pause.Accounts n := by
  unfold Cycle.pause
  split
  · exact ⟨accounts.begun, accounts.advice⟩
  · exact accounts

/-- Stopping changes no account. -/
theorem stop (accounts : c.Accounts n) (now : Timestamp) : (c.stop now).Accounts n := by
  unfold Cycle.stop
  split
  · exact ⟨nofun, accounts.advice⟩
  · exact accounts

end Accounts

/-! ## Prompts that tell the adjustments -/

/-- What is part of a text is part of any text around that. -/
theorem infix_of_eq_append {part text whole before after : String}
    (h : part.toList <:+: text.toList) (eq : whole = before ++ text ++ after) :
    part.toList <:+: whole.toList := by
  rw [eq, String.toList_append, String.toList_append]
  exact h.trans (List.infix_append ..)

/-- One of several texts stands in them when they are joined. -/
theorem infix_join {part : String} {parts : List String} (mem : part ∈ parts) :
    part.toList <:+: (String.join parts).toList := by
  obtain ⟨before, after, rfl⟩ := List.append_of_mem mem
  have whole : String.join (before ++ part :: after) =
      String.join before ++ part ++ String.join after := by
    rw [String.join_append, String.join_cons, String.append_assoc]
  exact infix_of_eq_append List.infix_rfl whole

variable {c : Cycle}

/-- Adjustments are listed one to a line. -/
theorem adjustmentsPart_of_ne_nil (some : c.adjustments ≠ []) :
    c.adjustmentsPart =
      "\n\nAdjustments:" ++ String.join (c.adjustments.map fun a => "\n- " ++ a) := by
  unfold adjustmentsPart
  split
  next none => exact absurd (List.isEmpty_iff.1 none) some
  next => rfl

/-- The prompt of an iteration after the first has a part for the adjustments. -/
theorem exists_iterationPrompt (later : 0 < c.currentIteration) :
    ∃ before after, c.iterationPrompt = before ++ c.adjustmentsPart ++ after := by
  unfold iterationPrompt
  split
  next first => exact absurd (beq_iff_eq.1 first) (Nat.ne_of_gt later)
  next =>
    unfold followUpPrompt
    exact ⟨_, _, rfl⟩

/-- The prompt of an iteration after the first tells every adjustment. -/
theorem tells_adjustments (later : 0 < c.currentIteration) :
    ∀ a ∈ c.adjustments, ("\n- " ++ a).toList <:+: c.iterationPrompt.toList := by
  intro a mem
  have point : "\n- " ++ a ∈ c.adjustments.map fun a => "\n- " ++ a := List.mem_map.2 ⟨a, mem, rfl⟩
  have listed : ("\n- " ++ a).toList <:+: c.adjustmentsPart.toList := by
    have part := adjustmentsPart_of_ne_nil (List.ne_nil_of_mem mem)
    exact infix_of_eq_append (infix_join point) (part.trans String.append_empty.symm)
  obtain ⟨before, after, prompt⟩ := exists_iterationPrompt later
  exact infix_of_eq_append listed prompt

/-- The first iteration has the initial prompt. -/
theorem iterationPrompt_of_first (first : c.currentIteration = 0) :
    c.iterationPrompt = c.initialPrompt c.usesMark := by
  unfold iterationPrompt
  split
  next => rfl
  next later => exact absurd (beq_iff_eq.2 first) later

/-- The prompt of the first iteration tells none. -/
theorem iterationPrompt_adjustments (first : c.currentIteration = 0) (adjustments : List String) :
    { c with adjustments }.iterationPrompt = c.iterationPrompt := by
  rw [iterationPrompt_of_first first, iterationPrompt_of_first (c := { c with adjustments }) first]
  simp only [initialPrompt, usesMark]

end Ensemble.Reflection.Cycle
