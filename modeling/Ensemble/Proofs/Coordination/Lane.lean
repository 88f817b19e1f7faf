import Ensemble.Coordination.Lane
import Mathlib.Data.List.Induction
import Mathlib.Data.List.Nodup
import Mathlib.Data.List.Perm.Basic

/-!
# Lanes of distinct sessions

The lanes of a round belong to distinct sessions, and which sessions these are never changes.  The
lanes are therefore written as the values of a function over the list of sessions, and what happens
to one lane changes the function at one session: a prompt that is added (`enqueue_map`), and a
result that is received (`receiveAt_append`).

Prompts that are under way are at most one for each session, the first of its prompts.  When it has
ended, the next prompt of the session takes its place (`underWay_receive`).
-/

namespace Ensemble.Coordination

/-! ## Items by key -/

section Keys

variable {α κ : Type} [BEq κ] [LawfulBEq κ]

/-- Of keys in the order of their first appearance, a further one counts if it is new. -/
theorem eraseDups_concat (keys : List κ) (key : κ) :
    (keys ++ [key]).eraseDups =
      if key ∈ keys.eraseDups then keys.eraseDups else keys.eraseDups ++ [key] := by
  rw [List.eraseDups_append]
  by_cases old : key ∈ keys
  · simp [List.removeAll, old]
  · simp [List.removeAll, old, List.eraseDups_cons]

theorem nodup_eraseDups (keys : List κ) : keys.eraseDups.Nodup := by
  induction keys using List.reverseRecOn with
  | nil => exact List.nodup_nil
  | append_singleton keys key ih =>
    rw [eraseDups_concat]
    split
    next => exact ih
    next new => exact ih.append (List.nodup_singleton key) (by simpa using new)

/-- Items sorted out by their keys are the same items. -/
theorem flatMap_filter_perm {keys : List κ} (distinct : keys.Nodup) (key : α → κ) (items : List α)
    (all : ∀ x ∈ items, key x ∈ keys) :
    (keys.flatMap fun k => items.filter (key · == k)).Perm items := by
  induction keys generalizing items with
  | nil =>
    obtain rfl : items = [] := List.eq_nil_iff_forall_not_mem.2 fun x mem => by cases all x mem
    exact .nil
  | cons k keys ih =>
    obtain ⟨new, distinct⟩ := List.nodup_cons.1 distinct
    -- what does not have the first key is sorted out by the other keys
    let others := items.filter fun x => !(key x == k)
    have same : (keys.flatMap fun k => items.filter (key · == k)) =
        keys.flatMap fun k => others.filter (key · == k) := by
      refine List.flatMap_congr fun k' mem => ?_
      rw [List.filter_filter]
      refine List.filter_congr fun x _ => ?_
      have ne : k' ≠ k := fun eq => new (eq ▸ mem)
      by_cases here : key x = k' <;> simp [here, ne]
    have rest := ih distinct others fun x mem => by
      obtain ⟨mem, other⟩ := List.mem_filter.1 mem
      exact (List.mem_cons.1 (all x mem)).resolve_left (by simpa using other)
    rw [List.flatMap_cons, same]
    exact (rest.append_left _).trans (List.filter_append_perm _ items)

/-- Lists in which the items of each key are the same have the same items. -/
theorem perm_of_filter_eq {items items' : List α} (key : α → κ)
    (same : ∀ k, items.filter (key · == k) = items'.filter (key · == k)) :
    items.Perm items' := by
  have keyed : ∀ {a b : List α}, (∀ k, a.filter (key · == k) = b.filter (key · == k)) →
      ∀ x ∈ a, key x ∈ (b.map key).eraseDups := by
    intro a b same x mem
    have mem : x ∈ a.filter (key · == key x) := List.mem_filter.2 ⟨mem, by simp⟩
    rw [same, List.mem_filter] at mem
    exact List.mem_eraseDups.2 (List.mem_map_of_mem mem.1)
  -- both lists are sorted out by the keys of the second
  have distinct := nodup_eraseDups (items'.map key)
  refine (flatMap_filter_perm distinct key items (keyed same)).symm.trans ?_
  simp only [same]
  exact flatMap_filter_perm distinct key items' (keyed fun _ => rfl)

end Keys

namespace Lane

/-! ## Adding prompts -/

/-- A prompt is added to the lane of its session, which comes last if it is new. -/
theorem enqueue_map {sessions : List String} (distinct : sessions.Nodup)
    {prompts prompts' : String → List String} {session prompt : String}
    (here : prompts' session = prompts session ++ [prompt])
    (elsewhere : ∀ s, s ≠ session → prompts' s = prompts s)
    (new : session ∉ sessions → prompts session = []) :
    enqueue session prompt (sessions.map fun s => ofPrompts s (prompts s)) =
      (if session ∈ sessions then sessions else sessions ++ [session]).map
        fun s => ofPrompts s (prompts' s) := by
  induction sessions with
  | nil => simp [enqueue, here, new]
  | cons s rest ih =>
    obtain ⟨once, distinct⟩ := List.nodup_cons.1 distinct
    -- The lane stands first, or it is left to the rest; it occurs once only.
    by_cases eq : s = session
    · subst eq
      have others : rest.map (fun s => ofPrompts s (prompts s)) =
          rest.map fun s => ofPrompts s (prompts' s) :=
        List.map_congr_left fun other mem => by rw [elsewhere other fun eq => once (eq ▸ mem)]
      rw [if_pos List.mem_cons_self, List.map_cons, List.map_cons, others, here]
      simp [enqueue, ofPrompts]
    · have tail := ih distinct fun out => new (by simp [Ne.symm eq, out])
      have member : session ∈ s :: rest ↔ session ∈ rest := by simp [Ne.symm eq]
      have other : ((ofPrompts s (prompts s)).session == session) = false := by
        simpa [ofPrompts] using eq
      rw [List.map_cons, enqueue, other, if_neg Bool.false_ne_true, tail,
        ← elsewhere s eq]
      by_cases there : session ∈ rest
      · rw [if_pos there, if_pos (member.2 there)]
        rfl
      · rw [if_neg there, if_neg (mt member.1 there)]
        rfl

/-! ## Receiving results -/

/-- The lane at a place receives a result, and the others do not. -/
theorem receiveAt_append (result : Attempt String) (before : List Lane) (l : Lane)
    (after : List Lane) :
    receiveAt before.length result (before ++ l :: after) =
      before ++ l.receive result :: after := by
  induction before with
  | nil => rfl
  | cons first before ih => simp only [List.length_cons, List.cons_append, receiveAt, ih]

/-- The next prompt of the lane at a place. -/
theorem nextAt_append (before : List Lane) (l : Lane) (after : List Lane) :
    nextAt before.length (before ++ l :: after) = (l.underWay? before.length).toList := by
  simp [nextAt]

theorem underWayFrom_append (place : Nat) (before after : List Lane) :
    underWayFrom place (before ++ after) =
      underWayFrom place before ++ underWayFrom (place + before.length) after := by
  induction before generalizing place with
  | nil => rfl
  | cons first before ih =>
    rw [List.cons_append, underWayFrom, underWayFrom, ih, List.append_assoc, List.length_cons,
      Nat.add_right_comm, Nat.add_assoc]

/-- A prompt is under way in the lane at its place, where it is the first of the prompts. -/
theorem exists_of_mem_underWayFrom {place : Nat} {lanes : List Lane} {p : LanePrompt}
    (mem : p ∈ underWayFrom place lanes) :
    ∃ before l after, lanes = before ++ l :: after ∧
      l.underWay? (place + before.length) = some p := by
  induction lanes generalizing place with
  | nil => cases mem
  | cons l rest ih =>
    rw [underWayFrom, List.mem_append, Option.mem_toList] at mem
    rcases mem with here | there
    · exact ⟨[], l, rest, rfl, here⟩
    · obtain ⟨before, l', after, split, first⟩ := ih there
      rw [Nat.add_right_comm] at first
      exact ⟨l :: before, l', after, by rw [split, List.cons_append], first⟩

/-- Nothing is under way exactly if all prompts of all lanes have ended. -/
theorem underWayFrom_eq_nil (place : Nat) (lanes : List Lane) :
    underWayFrom place lanes = [] ↔ lanes.all isDone = true := by
  induction lanes generalizing place with
  | nil => simp [underWayFrom]
  | cons l rest ih =>
    rw [underWayFrom, List.append_eq_nil_iff, ih, List.all_cons, Bool.and_eq_true]
    refine and_congr_left fun _ => ?_
    cases prompts : l.prompts <;> simp [underWay?, isDone, prompts]

/-- A lane has received a result, and its next prompt is under way in place of the one that has
ended. -/
theorem underWay_receive {before after : List Lane} {l : Lane} {p : LanePrompt}
    (first : l.underWay? before.length = some p) {underWay : List LanePrompt}
    (all : underWay.Perm (Lane.underWay (before ++ l :: after))) (result : Attempt String) :
    (underWay.erase p ++ nextAt before.length (before ++ l.receive result :: after)).Perm
      (Lane.underWay (before ++ l.receive result :: after)) := by
  -- without the prompt that has ended, what is left under way is in the other lanes
  have others : (underWay.erase p).Perm
      (underWayFrom 0 before ++ underWayFrom (before.length + 1) after) := by
    refine (all.erase p).trans ?_
    rw [Lane.underWay, underWayFrom_append, Nat.zero_add, underWayFrom, first, Option.toList_some]
    refine (List.perm_middle.erase p).trans ?_
    rw [List.erase_cons_head]
    exact .rfl
  rw [nextAt_append, Lane.underWay, underWayFrom_append, Nat.zero_add, underWayFrom]
  refine (others.append_right _).trans ?_
  rw [List.append_assoc]
  exact List.perm_append_comm.append_left _

end Lane

end Ensemble.Coordination
