import Ensemble.Number.Literal
import Mathlib.Algebra.Group.Nat.Defs

/-!
# Decimal digits

A text of digits denotes a natural number: each digit counts as often as the power of ten at its
place says.  So zeros in front do not matter (`toNat_replicate_append`), zeros at the end multiply
by ten (`toNat_append_replicate`), and without zeros in front the count of the digits bounds the
number from both sides (`toNat_lt`, `le_toNat`).
-/

namespace Ensemble.Digits

variable {digits rest : List Char} {c : Char}

/-! ## Digits in a text -/

/-- Digits end where the text goes on with something else. -/
theorem span_append (hd : ∀ c ∈ digits, c.isDigit = true)
    (hr : ∀ c ∈ rest.head?, c.isDigit = false) : Digits.span (digits ++ rest) = (digits, rest) := by
  have hrest : rest.takeWhile Char.isDigit = [] ∧ rest.dropWhile Char.isDigit = rest := by
    rcases rest with - | ⟨c, rest⟩
    · exact ⟨rfl, rfl⟩
    · have hc : c.isDigit = false := hr c rfl
      simp [hc]
  rw [Digits.span, List.takeWhile_append_of_pos hd, List.dropWhile_append_of_pos hd, hrest.1,
    hrest.2, List.append_nil]

/-- The digits at the start of a text are digits, and the text goes on after them. -/
theorem isDigit_of_mem_span {s : List Char} (h : c ∈ (Digits.span s).1) : c.isDigit = true :=
  List.all_eq_true.mp (List.all_takeWhile) c h

/-- A digit is no other character. -/
theorem ne_of_isDigit {d : Char} (hc : c.isDigit = true) (hd : d.isDigit = false) : c ≠ d := by
  rintro rfl
  rw [hd] at hc
  cases hc

/-! ## The digits of a number -/

/-- A number is written in digits. -/
theorem isDigit_of_mem_ofNat {n : Nat} (mem : c ∈ Digits.ofNat n) : c.isDigit = true :=
  Nat.isDigit_of_mem_toDigits (by decide) (by decide) mem

/-- Every number has a digit. -/
theorem ofNat_ne_nil (n : Nat) : Digits.ofNat n ≠ [] :=
  Nat.toDigits_ne_nil

/-- A natural number has no leading zero. -/
theorem ofNat_head {n : Nat} (h : (Digits.ofNat n).head? = some '0') :
    Digits.ofNat n = ['0'] := by
  induction n using Nat.strongRecOn with
  | ind n ih =>
    rcases Nat.lt_or_ge n 10 with hn | hn
    · rw [Digits.ofNat, Nat.toDigits_of_lt_base hn] at h ⊢
      simpa using h
    · have hsplit : Digits.ofNat n = Digits.ofNat (n / 10) ++ [(n % 10).digitChar] :=
        Nat.toDigits_of_base_le (by decide) hn
      have hne : Digits.ofNat (n / 10) ≠ [] := Nat.toDigits_ne_nil
      have hhead : (Digits.ofNat (n / 10)).head? = some '0' := by
        rw [hsplit, List.head?_append, List.head?_eq_some_head hne, Option.some_or] at h
        rw [List.head?_eq_some_head hne, h]
      have hzero : Digits.ofNat (n / 10) = Digits.ofNat 0 := ih (n / 10) (by omega) hhead
      -- The number of the digits before the last one would be zero.
      have hq : n / 10 = 0 := by
        rw [← Digits.toNat_ofNat (n / 10), hzero, Digits.toNat_ofNat]
      omega

/-- A whole number as it is written: only a zero on its own starts with a zero. -/
structure IsWhole (digits : List Char) : Prop where
  isDigit : ∀ c ∈ digits, c.isDigit = true
  ne_nil : digits ≠ []
  leading : digits.head? = some '0' → digits = ['0']

/-- What is written of a number is a whole number. -/
theorem isWhole_ofNat (n : Nat) : IsWhole (ofNat n) :=
  ⟨fun _ => isDigit_of_mem_ofNat, ofNat_ne_nil n, ofNat_head⟩

/-- A whole number starts with a digit. -/
theorem IsWhole.exists_eq_cons (whole : IsWhole digits) :
    ∃ c rest, digits = c :: rest ∧ c.isDigit = true := by
  obtain ⟨c, rest, rfl⟩ := List.exists_cons_of_ne_nil whole.ne_nil
  exact ⟨c, rest, rfl, whole.isDigit c List.mem_cons_self⟩

/-! ## The number of digits -/

/-- The digits in front count for more by a power of ten for each digit after them. -/
theorem toNat_append (s t : List Char) : toNat (s ++ t) = toNat s * 10 ^ t.length + toNat t := by
  rw [toNat, Nat.ofDigitChars_append, Nat.ofDigitChars_eq_ofDigitChars_zero, Nat.mul_comm]
  rfl

/-- Zeros are worth nothing. -/
theorem toNat_replicate (count : Nat) : toNat (List.replicate count '0') = 0 := by
  rw [toNat, Nat.ofDigitChars_replicate_zero]
  exact Nat.mul_zero _

/-- Zeros in front do not matter. -/
theorem toNat_replicate_append (count : Nat) (s : List Char) :
    toNat (List.replicate count '0' ++ s) = toNat s := by
  rw [toNat_append, toNat_replicate, Nat.zero_mul, Nat.zero_add]

/-- Zeros at the end multiply by ten. -/
theorem toNat_append_replicate (s : List Char) (count : Nat) :
    toNat (s ++ List.replicate count '0') = toNat s * 10 ^ count := by
  rw [toNat_append, toNat_replicate, List.length_replicate, Nat.add_zero]

/-- The first digit counts for more by a power of ten for each digit after it. -/
theorem toNat_cons (c : Char) (s : List Char) :
    toNat (c :: s) = value c * 10 ^ s.length + toNat s := by
  rw [← List.singleton_append, toNat_append]
  simp [toNat, value, Nat.ofDigitChars_cons]

/-- The zeros in front can be left out. -/
theorem toNat_dropWhile (s : List Char) : toNat (s.dropWhile (· == '0')) = toNat s := by
  induction s with
  | nil => rfl
  | cons c s ih =>
    rw [List.dropWhile_cons]
    split
    next zero =>
      rw [ih, beq_iff_eq.1 zero]
      exact (toNat_replicate_append 1 s).symm
    next => rfl

/-- A digit is worth less than ten. -/
theorem value_lt (digit : c.isDigit = true) : value c < 10 := by
  simp only [Char.isDigit, Bool.and_eq_true, decide_eq_true_eq, UInt32.le_iff_toNat_le] at digit
  have most : c.toNat ≤ 57 := digit.2
  have zero : '0'.toNat = 48 := rfl
  rw [value]
  omega

/-- Every digit but zero is worth something. -/
theorem value_pos (digit : c.isDigit = true) (other : c ≠ '0') : 0 < value c := by
  simp only [Char.isDigit, Bool.and_eq_true, decide_eq_true_eq, UInt32.le_iff_toNat_le] at digit
  have least : 48 ≤ c.toNat := digit.1
  have zero : '0'.toNat = 48 := rfl
  have different : c.toNat ≠ '0'.toNat := mt Char.toNat_inj.1 other
  rw [value]
  omega

/-- Digits are worth less than the power of ten that is longer than they are. -/
theorem toNat_lt (all : ∀ c ∈ digits, c.isDigit = true) : toNat digits < 10 ^ digits.length := by
  induction digits with
  | nil => exact Nat.one_pos
  | cons c digits ih =>
    rw [List.forall_mem_cons] at all
    have small := ih all.2
    have digit := Nat.mul_le_mul_right (10 ^ digits.length) (value_lt all.1)
    rw [toNat_cons, List.length_cons, Nat.pow_succ, Nat.mul_comm _ 10]
    rw [Nat.succ_mul] at digit
    omega

/-- A number has as many digits as its first one is far from the end. -/
theorem le_toNat (digit : c.isDigit = true) (other : c ≠ '0') (digits : List Char) :
    10 ^ digits.length ≤ toNat (c :: digits) := by
  rw [toNat_cons]
  have := Nat.mul_le_mul_right (10 ^ digits.length) (value_pos digit other)
  omega

end Ensemble.Digits
