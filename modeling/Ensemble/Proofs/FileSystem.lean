import Ensemble.FileSystem

/-!
# What file operations do and what they leave alone

Files are written, copied and moved as a whole: `write_cases`, `copy_cases` and `rename_cases` say
that each of these either does what it should or leaves the file system as it is.  Making
directories changes nothing but the way to the last one (`node?_makeDirectories`).

A path with another ending of its last name is beside the path it was made from, and it is another
path if the new ending has a point in it.
-/

namespace Ensemble

namespace Text

variable {c : Char} {s before after : List Char}

/-- A text that cannot be cut at a character does not have it. -/
theorem not_mem_of_cutLast? (h : cutLast? [c] s = none) : c ∉ s := by
  induction s with
  | nil => simp
  | cons d rest ih =>
    rw [cutLast?] at h
    cases cut : cutLast? [c] rest with
    | some parts =>
      rw [cut] at h
      cases h
    | none =>
      simp only [cut, List.isPrefixOf, Bool.and_true, beq_iff_eq] at h
      split at h
      next => cases h
      next ne => simp [ne, ih cut]

/-- A text that is cut at the last mark has none after it. -/
theorem eq_of_cutLast? (h : cutLast? [c] s = some (before, after)) :
    s = before ++ c :: after ∧ c ∉ after := by
  induction s generalizing before with
  | nil => cases h
  | cons d rest ih =>
    rw [cutLast?] at h
    -- the last place is in the rest, if the rest has one at all
    cases cut : cutLast? [c] rest with
    | some parts =>
      obtain ⟨before', after'⟩ := parts
      simp only [cut, Option.some.injEq, Prod.mk.injEq] at h
      obtain ⟨rfl, rfl⟩ := h
      obtain ⟨same, unmarked⟩ := ih cut
      exact ⟨by rw [same]; rfl, unmarked⟩
    | none =>
      simp only [cut, List.isPrefixOf, Bool.and_true, beq_iff_eq] at h
      split at h
      next same =>
        cases h
        exact ⟨by rw [same]; rfl, not_mem_of_cutLast? cut⟩
      next => cases h

end Text

namespace Path

variable {p : Path} {name ending ending' : String}

/-- A path with a name is that name below its parent. -/
theorem eq_of_name? (h : p.name? = some name) : p = p.parent ++ [name] := by
  obtain ⟨last, -⟩ := Option.filter_eq_some_iff.1 h
  obtain ⟨way, rfl⟩ := List.getLast?_eq_some_iff.1 last
  rw [parent, List.dropLast_concat]

/-- Another ending stands after the stem of the name. -/
theorem withEnding_of_name? (h : p.name? = some name) (ending : String) :
    p.withEnding ending = p.parent ++ [String.ofList (stem name ++ '.' :: ending.toList)] := by
  rw [withEnding, h]

/-- A path without a name has no ending to change. -/
theorem withEnding_of_unnamed (h : p.name? = none) (ending : String) : p.withEnding ending = p := by
  rw [withEnding, h]

/-- Another ending leaves a path in its directory. -/
@[simp] theorem parent_withEnding (p : Path) (ending : String) :
    (p.withEnding ending).parent = p.parent := by
  cases h : p.name? with
  | none => rw [withEnding_of_unnamed h]
  | some name =>
    rw [withEnding_of_name? h]
    exact List.dropLast_concat

/-- No name is its own stem with an ending that has a point in it. -/
theorem stem_ne (name : String) {ending : List Char} (dotted : '.' ∈ ending) :
    stem name ++ '.' :: ending ≠ name.toList := by
  have longer (before : List Char) : before ++ '.' :: ending ≠ before := by simp
  unfold stem
  split
  next => exact longer _
  next before after cut =>
    obtain ⟨same, unmarked⟩ := Text.eq_of_cutLast? cut
    rw [same]
    intro eq
    obtain ⟨-, rfl⟩ := List.cons.inj (List.append_cancel_left eq)
    exact unmarked dotted
  next => exact longer _

/-- With an ending that has a point in it, a path becomes another one. -/
theorem withEnding_ne (named : p.name?.isSome = true) (dotted : '.' ∈ ending.toList) :
    p.withEnding ending ≠ p := by
  obtain ⟨name, h⟩ := Option.isSome_iff_exists.1 named
  intro eq
  rw [withEnding_of_name? h] at eq
  have same := List.append_cancel_left (eq.trans (eq_of_name? h))
  refine stem_ne name dotted ?_
  rw [← String.toList_ofList (l := stem name ++ _), (List.cons.inj same).1]

/-- Different endings make different paths. -/
theorem withEnding_ne_withEnding (named : p.name?.isSome = true) (h : ending ≠ ending') :
    p.withEnding ending ≠ p.withEnding ending' := by
  obtain ⟨name, named⟩ := Option.isSome_iff_exists.1 named
  intro eq
  rw [withEnding_of_name? named, withEnding_of_name? named] at eq
  -- parent and stem are the same, so that the endings would have to be
  have same := (List.cons.inj (List.append_cancel_left eq)).1
  have chars := List.append_cancel_left (String.ofList_injective same)
  exact h (String.toList_injective (List.cons.inj chars).2)

/-- A path beside another is no part of the way to their directory. -/
theorem not_prefix_of_beside {q : Path} (nested : p.parent ≠ []) (beside : q.parent = p.parent) :
    ¬ q <+: p.parent := by
  intro pre
  rw [← beside] at nested pre
  have shorter := pre.length_le
  rw [parent, List.length_dropLast] at shorter
  have empty : q = [] := List.length_eq_zero_iff.1 (by omega)
  rw [empty] at nested
  exact nested rfl

end Path

namespace FileSystem

variable {fs after : FileSystem} {p q source target : Path}

/-- Whether something is there is a matter of what is found there. -/
theorem contains_congr (h : after.node? q = fs.node? p) : after.contains q = fs.contains p := by
  rw [contains, h]
  rfl

/-- A path that can hold a file has a name. -/
theorem name?_of_canHold (h : fs.canHold p = true) : p.name?.isSome = true := by
  simp only [canHold, Bool.and_eq_true] at h
  exact h.1.1.1

/-- A file is put at a path, or nothing is changed. -/
theorem putFile_cases (fs : FileSystem) (p : Path) (text : Option String) :
    (fs.canHold p = true ∧ fs.putFile p text = (.ok (), fs.put p (some (.file text)))) ∨
      ∃ failure, fs.putFile p text = (.error failure, fs) := by
  cases h : fs.canHold p with
  | true => exact .inl ⟨rfl, by simp [putFile, h]⟩
  | false => exact .inr ⟨_, by simp only [putFile, h]; rfl⟩

/-- A text is written as a whole, or nothing is changed. -/
theorem write_cases (fs : FileSystem) (p : Path) (text : String) :
    (fs.canHold p = true ∧ fs.write p text = (.ok (), fs.put p (some (.file (some text))))) ∨
      ∃ failure, fs.write p text = (.error failure, fs) :=
  fs.putFile_cases p (some text)

/-- A file is copied as a whole, or nothing is changed. -/
theorem copy_cases (fs : FileSystem) (source target : Path) :
    (∃ text, fs.node? source = some (.file text) ∧ fs.canHold target = true ∧
        fs.copy source target = (.ok (), fs.put target (fs.node? source))) ∨
      ∃ failure, fs.copy source target = (.error failure, fs) := by
  unfold copy
  split
  next text h =>
    rw [h]
    rcases fs.putFile_cases target text with ⟨holds, done⟩ | failed
    · exact .inl ⟨text, rfl, holds, done⟩
    · exact .inr failed
  next => exact .inr ⟨_, rfl⟩

/-- A file is moved as a whole, or nothing is changed. -/
theorem rename_cases (fs : FileSystem) (apart : source ≠ target) :
    fs.rename source target = (.ok (), (fs.put target (fs.node? source)).put source none) ∨
      ∃ failure, fs.rename source target = (.error failure, fs) := by
  unfold rename
  split
  next text h =>
    rw [h]
    rcases fs.putFile_cases target text with ⟨-, done⟩ | ⟨failure, failed⟩
    · rw [done]
      simp [apart]
    · rw [failed]
      exact .inr ⟨failure, rfl⟩
  next => exact .inr ⟨_, rfl⟩

/-- Making directories changes nothing but the way to the last of them. -/
theorem node?_makeBelow {done names : Path} (h : ¬ q <+: done ++ names) :
    (fs.makeBelow done names).2.node? q = fs.node? q := by
  induction names generalizing fs done with
  | nil => rfl
  | cons name rest ih =>
    have way : done ++ name :: rest = (done ++ [name]) ++ rest := by simp
    -- the next directory lies on the way, and `q` does not
    have apart : q ≠ done ++ [name] := by
      rintro rfl
      exact h (way ▸ List.prefix_append _ _)
    have here : (fs.makeDirectory (done ++ [name])).2.node? q = fs.node? q := by
      unfold makeDirectory
      split
      · rfl
      · rfl
      · split
        · rfl
        · exact node?_put_of_ne fs apart _
    rw [makeBelow]
    split
    next after made =>
      rw [made] at here
      rw [ih (way ▸ h), here]
    next => exact here

/-- Making sure of a directory changes nothing but the way to it. -/
theorem node?_ensureDirectory (h : ¬ q <+: p) :
    (fs.ensureDirectory p).2.node? q = fs.node? q := by
  unfold ensureDirectory
  split
  · rfl
  · exact node?_makeBelow h

/-- The second of two steps is taken only if the first one went well. -/
theorem andThen_of_ok {done : Attempt Unit × FileSystem} (h : done.1 = .ok ())
    (next : FileSystem → Attempt Unit × FileSystem) : andThen done next = next done.2 := by
  rw [andThen, h]

/-- After a failure nothing more is done. -/
theorem andThen_of_error {done : Attempt Unit × FileSystem} {failure : Failure}
    (h : done.1 = .error failure) (next : FileSystem → Attempt Unit × FileSystem) :
    andThen done next = (.error failure, done.2) := by
  rw [andThen, h]

end FileSystem

end Ensemble
