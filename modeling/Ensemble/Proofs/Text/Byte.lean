import Ensemble.Proofs.Text

/-!
# Places in a text, counted in bytes

In UTF-8 a character takes up to four bytes, so that a number of bytes may lead into the middle of a
character or past the end of a text.  A text is cut there by `cutAtByte?` or not at all.

The place of a mark that was found is the end of a character (`cutAtByte?_byteLength`), also in
another text whose characters are as long, such as the text with other letter case.
-/

namespace Ensemble.Text

variable {s t before after marker : List Char}

/-- How many bytes a text takes. -/
def byteLength : List Char → Nat
  | [] => 0
  | c :: s => c.utf8Size + byteLength s

@[simp] theorem byteLength_nil : byteLength [] = 0 := rfl

@[simp] theorem byteLength_cons (c : Char) (s : List Char) :
    byteLength (c :: s) = c.utf8Size + byteLength s := rfl

@[simp] theorem byteLength_append (s t : List Char) :
    byteLength (s ++ t) = byteLength s + byteLength t := by
  induction s with
  | nil => rw [List.nil_append, byteLength_nil, Nat.zero_add]
  | cons c s ih => rw [List.cons_append, byteLength_cons, byteLength_cons, ih, Nat.add_assoc]

/-- A text cut in two after so many bytes; none past its end and in the middle of a character. -/
def cutAtByte? : Nat → List Char → Option (List Char × List Char)
  | 0, s => some ([], s)
  | _ + 1, [] => none
  | bytes + 1, c :: rest =>
    if c.utf8Size ≤ bytes + 1 then
      (cutAtByte? (bytes + 1 - c.utf8Size) rest).map fun (before, after) => (c :: before, after)
    else none

/-- The two parts make the text, and the first one takes the given number of bytes. -/
theorem cutAtByte?_eq_some_iff {bytes : Nat} :
    cutAtByte? bytes s = some (before, after) ↔
      s = before ++ after ∧ byteLength before = bytes := by
  fun_induction cutAtByte? bytes s generalizing before with
  | case1 s =>
    cases before with
    | nil => simp [eq_comm]
    | cons c before =>
      have pos := c.utf8Size_pos
      simp
      omega
  | case2 bytes =>
    cases before <;> simp
  | case3 bytes c rest fits ih =>
    cases before with
    | nil => simp
    | cons d before =>
      simp only [Option.map_eq_some_iff, Prod.exists, Prod.mk.injEq, List.cons.injEq,
        List.cons_append, byteLength_cons]
      constructor
      · rintro ⟨before', after', cut, ⟨rfl, rfl⟩, rfl⟩
        obtain ⟨rfl, size⟩ := ih.1 cut
        exact ⟨⟨rfl, rfl⟩, by omega⟩
      · rintro ⟨⟨rfl, rfl⟩, size⟩
        exact ⟨before, after, ih.2 ⟨rfl, by omega⟩, ⟨rfl, rfl⟩, rfl⟩
  -- The cut would fall inside the first character.
  | case4 bytes c rest large =>
    cases before with
    | nil => simp
    | cons d before =>
      simp only [reduceCtorEq, List.cons_append, List.cons.injEq, byteLength_cons, false_iff]
      rintro ⟨⟨rfl, -⟩, size⟩
      omega

/-- A text can be cut after what it starts with. -/
theorem cutAtByte?_byteLength (s t : List Char) :
    cutAtByte? (byteLength s) (s ++ t) = some (s, t) :=
  cutAtByte?_eq_some_iff.2 ⟨rfl, rfl⟩

theorem byteLength_eq_utf8ByteSize (s : List Char) :
    byteLength s = (String.ofList s).utf8ByteSize := by
  induction s with
  | nil => rfl
  | cons c s ih => rw [byteLength_cons, ih, String.ofList_cons, String.utf8ByteSize_append,
    String.utf8ByteSize_singleton]

/-- A text can be cut exactly at the valid positions of its UTF-8 form. -/
theorem cutAtByte?_isSome_iff {bytes : Nat} :
    (cutAtByte? bytes s).isSome = true ↔
      String.Pos.Raw.IsValid (String.ofList s) ⟨bytes⟩ := by
  simp only [Option.isSome_iff_exists, Prod.exists, cutAtByte?_eq_some_iff,
    String.Pos.Raw.isValid_ofList, ← byteLength_eq_utf8ByteSize]
  constructor
  · rintro ⟨before, after, rfl, rfl⟩
    exact ⟨before.length, by rw [List.take_left]⟩
  · rintro ⟨count, rfl⟩
    exact ⟨s.take count, s.drop count, (List.take_append_drop count s).symm, rfl⟩

/-! ## ASCII -/

/-- An ASCII letter takes as many bytes in upper case. -/
theorem utf8Size_toUpper (c : Char) : c.toUpper.utf8Size = c.utf8Size := by
  delta Char.toUpper
  split
  next small =>
    have low : c.val ≤ 127 := UInt32.le_trans small.2 (by decide)
    -- The sum wraps: adding the difference of the letters takes 32 away.
    have high : c.val + ('A'.val - 'a'.val) ≤ 127 := by
      have first : 97 ≤ c.val.toNat := UInt32.le_iff_toNat_le.1 small.1
      have last : c.val.toNat ≤ 122 := UInt32.le_iff_toNat_le.1 small.2
      have shift : ('A'.val - 'a'.val).toNat = 2 ^ 32 - 32 := rfl
      have limit : (127 : UInt32).toNat = 127 := rfl
      rw [UInt32.le_iff_toNat_le, UInt32.toNat_add, shift, limit]
      omega
    rw [Char.utf8Size_eq_one_iff.2 low]
    exact Char.utf8Size_eq_one_iff.2 high
  next => rfl

/-- An ASCII letter takes as many bytes in lower case. -/
theorem utf8Size_toLower (c : Char) : c.toLower.utf8Size = c.utf8Size := by
  delta Char.toLower
  split
  next large =>
    have low : c.val ≤ 127 := UInt32.le_trans large.2 (by decide)
    have high : c.val + ('a'.val - 'A'.val) ≤ 127 := by
      have last : c.val.toNat ≤ 90 := UInt32.le_iff_toNat_le.1 large.2
      have shift : ('a'.val - 'A'.val).toNat = 32 := rfl
      have limit : (127 : UInt32).toNat = 127 := rfl
      rw [UInt32.le_iff_toNat_le, UInt32.toNat_add, shift, limit]
      omega
    rw [Char.utf8Size_eq_one_iff.2 low]
    exact Char.utf8Size_eq_one_iff.2 high
  next => rfl

theorem byteLength_map {f : Char → Char} (same : ∀ c, (f c).utf8Size = c.utf8Size)
    (s : List Char) : byteLength (s.map f) = byteLength s := by
  induction s with
  | nil => rfl
  | cons c s ih => rw [List.map_cons, byteLength_cons, byteLength_cons, same, ih]

theorem byteLength_asciiUpper (s : List Char) : byteLength (asciiUpper s) = byteLength s :=
  byteLength_map utf8Size_toUpper s

/-- Texts that differ in letter case only have as many characters. -/
theorem length_of_sameIgnoringAsciiCase (same : sameIgnoringAsciiCase s t = true) :
    s.length = t.length := by
  have lengths := congrArg List.length (beq_iff_eq.1 same)
  simpa only [asciiLower, List.length_map] using lengths

/-- Texts that differ in letter case only take as many bytes. -/
theorem byteLength_of_sameIgnoringAsciiCase (same : sameIgnoringAsciiCase s t = true) :
    byteLength s = byteLength t := by
  have lower : asciiLower s = asciiLower t := beq_iff_eq.1 same
  rw [← byteLength_map utf8Size_toLower s, ← byteLength_map utf8Size_toLower t]
  exact congrArg byteLength lower

end Ensemble.Text
