/-!
# Words

Counts that are stored are held in words of 32 or 64 bits.  A number that is too large for its word
keeps its lower bits only, so that counting past the largest number begins again at zero.
-/

namespace Ensemble

/-- The greatest number of 32 bits. -/
def maxWord32 : Nat := Nat.pow 2 32 - 1

/-- The greatest number of 64 bits. -/
def maxWord64 : Nat := Nat.pow 2 64 - 1

/-- What a word that holds the numbers up to `largest` keeps of a number. -/
def wrap (largest n : Nat) : Nat :=
  n % (largest + 1)

/-- A word keeps the numbers that it holds. -/
theorem wrap_of_le {largest n : Nat} (h : n ≤ largest) : wrap largest n = n :=
  Nat.mod_eq_of_lt (Nat.lt_succ_of_le h)

/-- Whatever a word keeps, it holds. -/
theorem wrap_le (largest n : Nat) : wrap largest n ≤ largest :=
  Nat.le_of_lt_succ (Nat.mod_lt n (Nat.succ_pos largest))

/-- Adding to what a word keeps of a number is adding to the number. -/
theorem wrap_wrap_add (largest m n : Nat) :
    wrap largest (wrap largest m + n) = wrap largest (m + n) :=
  Nat.mod_add_mod m (largest + 1) n

/-- Counting up in a word comes back to a number only after all others. -/
theorem wrap_add_ne {largest n steps : Nat} (fits : n ≤ largest) (some : 0 < steps)
    (few : steps ≤ largest) : wrap largest (n + steps) ≠ n := by
  rcases Nat.lt_or_ge largest (n + steps) with large | small
  · -- past its largest number the word has begun again, and is behind where it was
    rw [wrap, Nat.mod_eq_sub_mod large, Nat.mod_eq_of_lt (by omega)]
    omega
  · rw [wrap_of_le small]
    omega

end Ensemble
