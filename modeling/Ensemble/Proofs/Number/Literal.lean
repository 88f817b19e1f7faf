import Ensemble.Number.Literal
import Ensemble.Proofs.Text.Byte

/-!
# What numbers are written with

A text that reads as a number (`ofLiteral?`) is not empty, and holds digits, signs, points and a few
letters only: those of an exponent and those of the words for infinite and undefined numbers.  None
of these characters is blank, and none is a mark that stands before or after a number in a text.
-/

namespace Ensemble.Binary64

variable {s : List Char} {c : Char} {x : Binary64}

/-- The characters other than digits that numbers are written with, in lower case. -/
def literalMarks : List Char := "+-.aefinty".toList

/-- The characters that numbers are written with. -/
def isLiteral (c : Char) : Bool :=
  c.isDigit || literalMarks.contains c.toLower

/-- All of them are characters of ASCII. -/
theorem low_of_isLiteral (literal : isLiteral c = true) : c.val ≤ 127 := by
  rcases Bool.or_eq_true_iff.1 literal with digit | letter
  · simp only [Char.isDigit, Bool.and_eq_true, decide_eq_true_eq] at digit
    exact UInt32.le_trans digit.2 (by decide)
  · have size : (literalMarks.all fun d => d.utf8Size == 1) = true := rfl
    have one := beq_iff_eq.1 (List.all_eq_true.1 size c.toLower (List.contains_iff_mem.1 letter))
    rw [Text.utf8Size_toLower] at one
    exact Char.utf8Size_eq_one_iff.1 one

/-- What holds of those among the characters of ASCII holds of all of them. -/
theorem of_isLiteral {P : Char → Prop}
    (all : ∀ n < 128, isLiteral (Char.ofNat n) = true → P (Char.ofNat n))
    (literal : isLiteral c = true) : P c := by
  have low : c.toNat < 128 :=
    Nat.lt_succ_of_le (UInt32.le_iff_toNat_le.1 (low_of_isLiteral literal))
  have found := all c.toNat low
  rw [Char.ofNat_toNat] at found
  exact found literal

/-- None of them is blank. -/
theorem isBlank_of_isLiteral (literal : isLiteral c = true) : Text.isBlank c = false :=
  of_isLiteral (P := fun c => Text.isBlank c = false) (by decide +kernel) literal

theorem isLiteral_of_isDigit (digit : c.isDigit = true) : isLiteral c = true := by
  rw [isLiteral, digit, Bool.true_or]

/-- A word is written with the letters that it is written with in lower case. -/
theorem isLiteral_of_asciiLower {word : List Char} (same : Text.asciiLower s = word)
    (letters : word.all literalMarks.contains = true) : ∀ c ∈ s, isLiteral c = true := by
  subst same
  intro c mem
  rw [isLiteral, List.all_eq_true.1 letters _ (List.mem_map_of_mem mem), Bool.or_true]

/-- Nothing but digits follows the sign of an exponent. -/
theorem isLiteral_of_exponentPart? {exponent : Int} (read : exponentPart? s = some exponent) :
    ∀ c ∈ s, isLiteral c = true := by
  unfold exponentPart? at read
  split at read
  next negative digits signed =>
    have unsigned : ∀ c ∈ digits, isLiteral c = true := by
      split at read
      next => cases read
      next plain =>
        simp only [Bool.or_eq_true, Bool.not_eq_true', not_or, Bool.not_eq_false] at plain
        intro c mem
        exact isLiteral_of_isDigit (List.all_eq_true.1 plain.2 c mem)
    split at signed
    next => cases signed; exact List.forall_mem_cons.2 ⟨rfl, unsigned⟩
    next => cases signed; exact List.forall_mem_cons.2 ⟨rfl, unsigned⟩
    next => cases signed; exact unsigned

/-- The digits at the start of a text are followed by the rest of it. -/
theorem span_isLiteral {digits rest : List Char} (found : Digits.span s = (digits, rest)) :
    s = digits ++ rest ∧ ∀ c ∈ digits, isLiteral c = true := by
  obtain ⟨rfl, rfl⟩ := Prod.mk.inj found
  exact ⟨List.takeWhile_append_dropWhile.symm, fun c mem =>
    isLiteral_of_isDigit (List.mem_takeWhile_imp mem)⟩

/-- What follows the sign of a number that is not written as a word. -/
theorem isLiteral_of_unsignedLiteral? {negative : Bool}
    (read : unsignedLiteral? negative s = some x) : ∀ c ∈ s, isLiteral c = true := by
  unfold unsignedLiteral? at read
  split at read
  next whole afterWhole found =>
    obtain ⟨rfl, digits⟩ := span_isLiteral found
    refine List.forall_mem_append.2 ⟨digits, ?_⟩
    split at read
    next fraction afterFraction point =>
      split at read
      next => cases read
      next =>
        obtain ⟨exponent, exponentRead, -⟩ := Option.map_eq_some_iff.1 read
        -- What follows the fraction is nothing or an exponent, in either case of the letter.
        have ending : ∀ c ∈ afterFraction, isLiteral c = true := by
          split at exponentRead
          next => exact nofun
          next more =>
            exact List.forall_mem_cons.2 ⟨rfl, isLiteral_of_exponentPart? exponentRead⟩
          next more =>
            exact List.forall_mem_cons.2 ⟨rfl, isLiteral_of_exponentPart? exponentRead⟩
          next => cases exponentRead
        split at point
        next more =>
          obtain ⟨rfl, digits⟩ := span_isLiteral point
          exact List.forall_mem_cons.2 ⟨rfl, List.forall_mem_append.2 ⟨digits, ending⟩⟩
        next => cases point; exact ending

/-- A text that reads as a number is not empty and holds nothing but characters that numbers are
written with. -/
theorem isLiteral_of_ofLiteral? (read : ofLiteral? s = some x) :
    s ≠ [] ∧ ∀ c ∈ s, isLiteral c = true := by
  refine ⟨?_, ?_⟩
  · rintro rfl
    cases read
  · unfold ofLiteral? at read
    split at read
    next negative rest signed =>
      -- The words for infinity and for no number are made of the same characters.
      have unsigned : ∀ c ∈ rest, isLiteral c = true := by
        simp only [Bool.or_eq_true, beq_iff_eq] at read
        split at read
        next infinite =>
          rcases infinite with same | same
          · exact isLiteral_of_asciiLower same rfl
          · exact isLiteral_of_asciiLower same rfl
        next =>
          split at read
          next same => exact isLiteral_of_asciiLower same rfl
          next => exact isLiteral_of_unsignedLiteral? read
      split at signed
      next => cases signed; exact List.forall_mem_cons.2 ⟨rfl, unsigned⟩
      next => cases signed; exact List.forall_mem_cons.2 ⟨rfl, unsigned⟩
      next => cases signed; exact unsigned

end Ensemble.Binary64
