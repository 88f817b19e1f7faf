import Ensemble.Id

/-!
# Identifiers read back

The text of an identifier denotes that identifier: its digits are those of a number below `2^128`,
and the hyphens between them are taken out again.
-/

namespace Ensemble.Id

/-- A hexadecimal digit is read back. -/
theorem hexValue?_hexDigit {value : Nat} (h : value < 16) :
    hexValue? (hexDigit value) = some value := by
  have hall : ∀ value < 16, hexValue? (hexDigit value) = some value := by decide
  exact hall value h

/-- The first digits of a number denote the number without the digits that are left. -/
theorem hexNumber?_leading {n : Nat} (hn : n < Nat.pow 16 32) {count : Nat} (hcount : count ≤ 32) :
    hexNumber? ((List.range count).map fun i => hexDigit (n / Nat.pow 16 (31 - i) % 16)) =
      some (n / Nat.pow 16 (32 - count)) := by
  induction count with
  | zero =>
    rw [Nat.div_eq_of_lt hn]
    rfl
  | succ count ih =>
    have hdigit : hexValue? (hexDigit (n / Nat.pow 16 (31 - count) % 16)) =
        some (n / Nat.pow 16 (31 - count) % 16) := hexValue?_hexDigit (Nat.mod_lt _ (by decide))
    -- The digits read so far are the number cut off behind them.
    have hsplit : n / Nat.pow 16 (32 - count) = n / Nat.pow 16 (31 - count) / 16 := by
      rw [Nat.div_div_eq_div_mul, show 32 - count = 31 - count + 1 by omega]
      rfl
    have hstep : 32 - (count + 1) = 31 - count := by omega
    have hrest := ih (by omega)
    rw [hexNumber?] at hrest ⊢
    rw [List.range_succ, List.map_append, List.foldlM_append, hrest, hsplit, hstep]
    simp [hdigit, -Nat.pow_eq]
    omega

/-- The digits of an identifier denote it. -/
theorem ofDigits?_digits (id : Id) : ofDigits? id.digits = some id := by
  have hn : id.bits.toNat < Nat.pow 16 32 := id.bits.isLt
  have hlength : id.digits.length = 32 := by simp [digits]
  rw [ofDigits?, if_pos hlength, digits, hexNumber?_leading hn (Nat.le_refl 32)]
  simp

/-- No other form of an identifier starts with a digit. -/
theorem read?_digit {value : Nat} (h : value < 16) {more : List Char} (hlength : more.length = 35) :
    read? (hexDigit value :: more) = ofHyphenated? (hexDigit value :: more) := by
  have hstart : ∀ value < 16, hexDigit value ≠ '\x7b' ∧ ('u' == hexDigit value) = false := by decide
  obtain ⟨hbrace, hscheme⟩ := hstart value h
  have hnone : scheme.isPrefixOf (hexDigit value :: more) = false := by
    rw [show scheme = 'u' :: "rn:uuid:".toList from rfl, List.isPrefixOf, hscheme, Bool.false_and]
  rw [read?]
  · simp [hnone, hlength]
  · intro _ heq
    exact hbrace (List.cons.inj heq).1

/-- The text of an identifier denotes it. -/
theorem read?_text (id : Id) : read? id.text.toList = some id := by
  have hhyphens : ofHyphenated? id.text.toList = ofDigits? id.digits := by
    rw [text, String.toList_ofList]
    rfl
  obtain ⟨more, htext, hlength⟩ : ∃ more, id.text.toList =
      hexDigit (id.bits.toNat / Nat.pow 16 31 % 16) :: more ∧ more.length = 35 := by
    rw [text, String.toList_ofList]
    exact ⟨_, rfl, rfl⟩
  rw [htext, read?_digit (Nat.mod_lt _ (by decide)) hlength, ← htext, hhyphens, ofDigits?_digits]

end Ensemble.Id
