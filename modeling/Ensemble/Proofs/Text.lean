import Ensemble.Text.Blank
import Mathlib.Data.List.Infix
import Mathlib.Data.List.TakeWhile

/-!
# Marks in texts, and trimming

A text is searched for a mark from its start, and cut around the mark.  An occurrence that starts in
one part of a text may reach into the next; it does not if the next part starts with a character
that the mark holds at most in its first place (`prefix_of_prefix_append`).  Marks such as `@end`
hold their first character nowhere else, so that a mark after a part without one is found where it
stands (`cut?_append`).

Trimming takes off blanks and nothing else, which is said twice: blanks added at either end do not
matter, and the number of characters that are not blank stays the same.
-/

namespace Ensemble.Text

variable {marker before after s t : List Char}

/-! ## Characters -/

/-- What holds of one character holds of the only one that is there. -/
theorem forall_mem_some {P : Char → Prop} {c : Char} (h : P c) : ∀ d ∈ some c, P d := by
  intro d only
  obtain rfl : c = d := Option.some.inj only
  exact h

/-- A text without a character of a class. -/
theorem none_of_any {p : Char → Bool} (h : s.any p = false) : ∀ c ∈ s, p c = false := by
  intro c mem
  exact Bool.eq_false_iff.2 (List.any_eq_false.1 h c mem)

/-- A text in which nothing is blank. -/
theorem solid_of_any (h : s.any isBlank = false) : ∀ c ∈ s, isBlank c = false :=
  none_of_any h

/-- A line feed is blank. -/
theorem blank_newline : ∀ c ∈ ['\n'], isBlank c = true :=
  List.forall_mem_singleton.2 rfl

/-- A space is blank. -/
theorem blank_space : ∀ c ∈ [' '], isBlank c = true :=
  List.forall_mem_singleton.2 rfl

/-! ## Where marks can start -/

/-- A mark that starts in one part of a text lies in that part, if the next part starts with a
character that the mark does not hold after its first. -/
theorem prefix_of_prefix_append (apart : ∀ c ∈ t.head?, c ∉ marker.tail) (inside : s ≠ [])
    (h : marker <+: s ++ t) : marker <+: s := by
  rcases List.prefix_or_prefix_of_prefix h (List.prefix_append s t) with short | long
  · exact short
  · -- the mark would go on with what stands at the start of the next part
    obtain ⟨more, rfl⟩ := long
    obtain ⟨first, rest, rfl⟩ := List.exists_cons_of_ne_nil inside
    cases more with
    | nil => simp
    | cons c more =>
      have next : t.head? = some c := by
        obtain ⟨later, rfl⟩ := (List.prefix_append_right_inj _).1 h
        rfl
      apply absurd _ (apart c next)
      simp

/-- A part of a text that holds no mark starts none either, as long as the next part starts with a
character that the mark does not hold after its first. -/
theorem not_prefix_append (apart : ∀ c ∈ t.head?, c ∉ marker.tail) (inside : s ≠ [])
    (unmarked : ¬ marker <:+: s) : ¬ marker <+: s ++ t := by
  intro h
  exact unmarked (prefix_of_prefix_append apart inside h).isInfix

/-- A part without a mark holds none after its first character either. -/
theorem unmarked_of_cons {c : Char} (unmarked : ¬ marker <:+: c :: s) : ¬ marker <:+: s := by
  intro h
  exact unmarked (List.infix_cons_iff.2 (.inr h))

/-- A character that the mark does not start with starts no mark. -/
theorem unmarked_cons {c : Char} (other : c ∉ marker.head?) (unmarked : ¬ marker <:+: s) :
    ¬ marker <:+: c :: s := by
  intro h
  rcases List.infix_cons_iff.1 h with here | later
  · cases marker with
    | nil => exact unmarked List.nil_infix
    | cons d rest =>
      obtain ⟨rfl, -⟩ := List.cons_prefix_cons.1 here
      exact other rfl
  · exact unmarked later

/-- Two parts without a mark make none, if the second one starts with a character that the mark does
not hold after its first. -/
theorem unmarked_append (apart : ∀ c ∈ t.head?, c ∉ marker.tail) (first : ¬ marker <:+: s)
    (second : ¬ marker <:+: t) : ¬ marker <:+: s ++ t := by
  induction s with
  | nil => exact second
  | cons c s ih =>
    intro h
    rcases List.infix_cons_iff.1 h with here | later
    · exact not_prefix_append apart (List.cons_ne_nil c s) first here
    · exact ih (unmarked_of_cons first) later

/-- A part that the first character of the mark does not stand in starts no mark, whatever comes
after it. -/
theorem unmarked_append_of_not_mem (other : ∀ c ∈ marker.head?, c ∉ s)
    (unmarked : ¬ marker <:+: t) : ¬ marker <:+: s ++ t := by
  induction s with
  | nil => exact unmarked
  | cons c s ih =>
    apply unmarked_cons
    · intro start
      exact other c start List.mem_cons_self
    · exact ih fun d start mem => other d start (List.mem_cons_of_mem c mem)

/-! ## Cutting a text around a mark -/

/-- The two parts and the mark between them make the text. -/
theorem append_of_cut? (h : cut? marker s = some (before, after)) :
    s = before ++ marker ++ after := by
  induction s generalizing before with
  | nil =>
    rw [cut?] at h
    split at h
    next none =>
      cases h
      rw [List.isEmpty_iff.1 none]
      rfl
    next => cases h
  | cons c rest ih =>
    rw [cut?] at h
    split at h
    -- the marker starts here, or else it is cut out of the rest
    next here =>
      cases h
      exact (List.prefix_iff_eq_append.1 (List.isPrefixOf_iff_prefix.1 here)).symm
    next =>
      obtain ⟨⟨before', after'⟩, cut, same⟩ := Option.map_eq_some_iff.1 h
      cases same
      rw [ih cut]
      rfl

/-- The two parts and the mark between them make the text, also for the last mark. -/
theorem append_of_cutLast? (h : cutLast? marker s = some (before, after)) :
    s = before ++ marker ++ after := by
  -- The last occurrence lies in the rest, unless the rest has none.
  induction s generalizing before with
  | nil =>
    rw [cutLast?] at h
    split at h
    next none =>
      cases h
      rw [List.isEmpty_iff.1 none]
      rfl
    next => cases h
  | cons c rest ih =>
    rw [cutLast?] at h
    split at h
    next before' after' cut =>
      cases h
      rw [ih cut]
      rfl
    next =>
      split at h
      next here =>
        cases h
        exact (List.prefix_iff_eq_append.1 (List.isPrefixOf_iff_prefix.1 here)).symm
      next => cases h

/-- A text is cut around the mark that follows a part without one, if the mark holds its first
character nowhere else. -/
theorem cut?_append (apart : ∀ c ∈ marker.head?, c ∉ marker.tail) (unmarked : ¬ marker <:+: before)
    (after : List Char) : cut? marker (before ++ marker ++ after) = some (before, after) := by
  have apart' : ∀ c ∈ (marker ++ after).head?, c ∉ marker.tail := by
    cases marker with
    | nil => exact absurd (List.nil_infix) unmarked
    | cons => exact apart
  induction before with
  | nil =>
    cases marker with
    | nil => exact absurd (List.nil_infix) unmarked
    | cons c rest =>
      have here : (c :: rest).isPrefixOf (c :: (rest ++ after)) = true :=
        List.isPrefixOf_iff_prefix.2 (List.prefix_append (c :: rest) after)
      simp only [List.nil_append, List.cons_append, cut?, here, if_true]
      rw [← List.cons_append, List.drop_left]
  | cons c before ih =>
    -- the marker does not start early, even where it would reach into its own place
    have elsewhere : ¬ marker.isPrefixOf (c :: (before ++ (marker ++ after))) = true := by
      rw [List.isPrefixOf_iff_prefix, ← List.cons_append]
      exact not_prefix_append apart' (List.cons_ne_nil c before) unmarked
    have cut := ih (unmarked_of_cons unmarked)
    rw [List.append_assoc] at cut
    rw [List.append_assoc, List.cons_append, cut?, if_neg elsewhere, cut]
    rfl

/-- A text can be cut around a mark exactly if it holds the mark. -/
theorem cut?_isSome_iff : (cut? marker s).isSome = true ↔ marker <:+: s := by
  induction s with
  | nil =>
    rw [cut?, List.infix_nil]
    split
    next none => exact iff_of_true rfl (List.isEmpty_iff.1 none)
    next some => exact iff_of_false Bool.false_ne_true (mt List.isEmpty_iff.2 some)
  | cons c rest ih =>
    rw [cut?, List.infix_cons_iff]
    split
    next here => exact iff_of_true rfl (.inl (List.isPrefixOf_iff_prefix.1 here))
    next elsewhere =>
      rw [Option.isSome_map, ih, or_iff_right (mt List.isPrefixOf_iff_prefix.2 elsewhere)]

/-- What follows a mark is the second part of the text that is cut around it. -/
theorem after?_eq_cut? (marker s : List Char) : after? marker s = (cut? marker s).map Prod.snd := by
  induction s with
  | nil =>
    rw [after?, cut?]
    split <;> rfl
  | cons c rest ih =>
    rw [after?, cut?]
    split
    next => rfl
    next => rw [ih, Option.map_map]; rfl

/-- A marker occurs in a text if it is a part of it. -/
theorem occursIn_iff : occursIn marker s = true ↔ marker <:+: s := by
  rw [occursIn, after?_eq_cut?, Option.isSome_map, cut?_isSome_iff]

/-! ## Trimming -/

section Trim

/-- Blanks at the start do not matter to a trimmed text. -/
theorem trim_append_left (blank : ∀ c ∈ s, isBlank c = true) (t : List Char) :
    trim (s ++ t) = trim t := by
  rw [trim, trimStart, trimStartWhere, List.dropWhile_append_of_pos blank]
  rfl

/-- What is to be trimmed at the end does not matter. -/
theorem trimEndWhere_append {p : Char → Bool} (s : List Char) (all : ∀ c ∈ t, p c = true) :
    trimEndWhere p (s ++ t) = trimEndWhere p s := by
  rw [trimEndWhere, List.reverse_append, List.dropWhile_append_of_pos]
  · rfl
  · intro c mem
    exact all c (List.mem_reverse.1 mem)

/-- Blanks at the end do not matter to a trimmed text. -/
theorem trim_append_right (s : List Char) (blank : ∀ c ∈ t, isBlank c = true) :
    trim (s ++ t) = trim s := by
  rw [trim, trimStart, trimStartWhere, List.dropWhile_append]
  split
  next none =>
    have gone : s.dropWhile isBlank = [] := List.isEmpty_iff.1 none
    rw [List.dropWhile_eq_nil_iff.2 blank, trim, trimStart, trimStartWhere, gone]
  next => exact trimEndWhere_append _ blank

/-- A text whose last character is not of a class keeps all when that class is taken off its end. -/
theorem trimEndWhere_eq_self {p : Char → Bool} (last : ∀ c ∈ s.getLast?, p c = false) :
    trimEndWhere p s = s := by
  cases s using List.reverseRecOn with
  | nil => rfl
  | append_singleton s c =>
    have stays : p c = false := last c (by simp)
    rw [trimEndWhere, List.reverse_append, List.reverse_singleton, List.singleton_append,
      List.dropWhile_cons_of_neg (Bool.eq_false_iff.1 stays), List.reverse_cons,
      List.reverse_reverse]

/-- What is taken off the start of a text is taken off before a character that stays. -/
theorem trimStartWhere_append_cons {p : Char → Bool} {c : Char} (stays : p c = false)
    (s t : List Char) : trimStartWhere p (s ++ c :: t) = trimStartWhere p s ++ c :: t := by
  rw [trimStartWhere, trimStartWhere, List.dropWhile_append,
    List.dropWhile_cons_of_neg (Bool.eq_false_iff.1 stays)]
  split
  next none => rw [List.isEmpty_iff.1 none, List.nil_append]
  next => rfl

/-- What is taken off the end of a text is taken off after a character that stays. -/
theorem trimEndWhere_append_cons {p : Char → Bool} {c : Char} (stays : p c = false)
    (s t : List Char) : trimEndWhere p (s ++ c :: t) = s ++ c :: trimEndWhere p t := by
  have turned : (s ++ c :: t).reverse = t.reverse ++ c :: s.reverse := by simp
  have off := trimStartWhere_append_cons stays t.reverse s.reverse
  rw [trimStartWhere, ← turned, trimStartWhere] at off
  rw [trimEndWhere, off, trimEndWhere]
  simp

/-- A text is trimmed before and after a part in which nothing is blank. -/
theorem trim_append_append (some : t ≠ []) (solid : ∀ c ∈ t, isBlank c = false)
    (s after : List Char) : trim (s ++ t ++ after) = trimStart s ++ t ++ trimEnd after := by
  have first : trimStart (s ++ t ++ after) = trimStart s ++ t ++ after := by
    obtain ⟨c, more, rfl⟩ := List.exists_cons_of_ne_nil some
    have kept := trimStartWhere_append_cons (solid c List.mem_cons_self) s (more ++ after)
    simpa [trimStart] using kept
  cases t using List.reverseRecOn with
  | nil => exact absurd rfl some
  | append_singleton front c =>
    have kept := trimEndWhere_append_cons (solid c List.mem_concat_self)
      (trimStart s ++ front) after
    rw [trim, first]
    simpa [trimEnd] using kept

/-- A text without blanks is trimmed. -/
theorem trim_eq_self (solid : ∀ c ∈ s, isBlank c = false) : trim s = s := by
  have start : trimStart s = s := by
    cases s with
    | nil => rfl
    | cons c rest =>
      exact List.dropWhile_cons_of_neg (Bool.eq_false_iff.1 (solid c List.mem_cons_self))
  rw [trim, start]
  apply trimEndWhere_eq_self
  intro c mem
  exact solid c (List.mem_of_mem_getLast? mem)

/-- How many characters of a text are not blank. -/
def solidCount (s : List Char) : Nat :=
  s.countP fun c => !isBlank c

/-- Solid characters are counted in each part. -/
@[simp] theorem solidCount_append (s t : List Char) :
    solidCount (s ++ t) = solidCount s + solidCount t :=
  List.countP_append

/-- A line feed is not solid. -/
theorem solidCount_newline : solidCount ['\n'] = 0 := rfl

/-- Solid characters are as many from the other end. -/
theorem solidCount_reverse (s : List Char) : solidCount s.reverse = solidCount s :=
  List.countP_reverse

/-- Only blanks count for nothing. -/
theorem solidCount_eq_zero_iff : solidCount s = 0 ↔ ∀ c ∈ s, isBlank c = true := by
  simp [solidCount]

/-- All of a solid text counts. -/
theorem solidCount_eq_length (solid : ∀ c ∈ s, isBlank c = false) : solidCount s = s.length := by
  rw [solidCount, List.countP_eq_length]
  intro c mem
  rw [solid c mem, Bool.not_false]

/-- Dropping blanks in front drops nothing solid. -/
theorem solidCount_dropWhile (s : List Char) :
    solidCount (s.dropWhile isBlank) = solidCount s := by
  have dropped : solidCount (s.takeWhile isBlank) = 0 := by
    apply solidCount_eq_zero_iff.2
    intro c mem
    exact List.mem_takeWhile_imp mem
  calc solidCount (s.dropWhile isBlank)
      = solidCount (s.takeWhile isBlank) + solidCount (s.dropWhile isBlank) := by
        rw [dropped, Nat.zero_add]
    _ = solidCount s := by
        rw [← solidCount_append, List.takeWhile_append_dropWhile]

/-- Trimming keeps all characters that are not blank. -/
theorem solidCount_trim (s : List Char) : solidCount (trim s) = solidCount s := by
  rw [trim, trimEnd, trimEndWhere, solidCount_reverse, solidCount_dropWhile, solidCount_reverse]
  exact solidCount_dropWhile s

end Trim

end Ensemble.Text
