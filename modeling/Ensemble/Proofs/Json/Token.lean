import Ensemble.Json.Writer
import Ensemble.Proofs.Number.Digits

/-!
# Numbers and strings read back

The tokens of JSON that are not fixed words: the text of a number and the text of a string.  Each is
read off the start of a longer text, and what follows is handed on as it is.  A number ends only
where the text stops being one, so what follows it matters (`EndsNumber`); a string carries its end.

Numbers read back if they are well formed, as every number that was read is.  Strings read back
whatever they hold, also if they hold half of a surrogate pair and so denote no text.
-/

namespace Ensemble

/-! ## Numbers -/

/-- A number as JSON allows it to be written. -/
structure Numeral.WellFormed (n : Numeral) : Prop where
  whole : ∀ c ∈ n.whole, c.isDigit = true
  whole_ne_nil : n.whole ≠ []
  /-- Only zero itself starts with a zero. -/
  leading : n.whole.head? = some '0' → n.whole = ['0']
  fraction : ∀ c ∈ n.fraction, c.isDigit = true
  exponent : ∀ negative digits, n.exponent = some (negative, digits) →
    digits ≠ [] ∧ ∀ c ∈ digits, c.isDigit = true

/-- The fraction of a number as it is written. -/
def Numeral.fractionText (n : Numeral) : List Char :=
  if n.fraction.isEmpty then [] else '.' :: n.fraction

/-- The exponent of a number as it is written. -/
def Numeral.exponentText (n : Numeral) : List Char :=
  match n.exponent with
  | none => []
  | some (negative, digits) => 'e' :: Binary64.signText negative ++ digits

/-- A number is written part by part. -/
theorem Numeral.write_eq (n : Numeral) : n.write =
    Binary64.signText n.negative ++ (n.whole ++ (n.fractionText ++ n.exponentText)) := by
  simp only [← List.append_assoc]
  rfl

/-- Natural numbers are well formed. -/
theorem Numeral.wellFormed_ofNat (n : Nat) : (Numeral.ofNat n).WellFormed where
  whole _ hc := Digits.isDigit_of_mem_ofNat hc
  whole_ne_nil := Digits.ofNat_ne_nil n
  leading := Digits.ofNat_head
  fraction := by simp [Numeral.ofNat]
  exponent := by simp [Numeral.ofNat]

namespace Json

/-- What may stand after a number: nothing that goes on with the number. -/
def EndsNumber (rest : List Char) : Prop :=
  ∀ c ∈ rest.head?, c.isDigit = false ∧ c ≠ '.' ∧ c ≠ 'e' ∧ c ≠ 'E'

/-- The whole part of a well-formed number. -/
theorem whole?_append {n : Numeral} (hn : n.WellFormed) {rest : List Char}
    (hr : ∀ c ∈ rest.head?, c.isDigit = false) :
    whole? (n.whole ++ rest) = some (n.whole, rest) := by
  rw [whole?, Digits.span_append hn.whole hr]
  have hne := hn.whole_ne_nil
  have hlead := hn.leading
  dsimp only
  split
  · rename_i h
    exact absurd h hne
  · rename_i more h
    rw [h] at hlead
    exact absurd (hlead rfl) (by simp)
  · rfl

/-- The fraction of a well-formed number. -/
theorem fraction?_append {n : Numeral} (hn : n.WellFormed) {rest : List Char}
    (hr : ∀ c ∈ rest.head?, c.isDigit = false ∧ c ≠ '.') :
    fraction? (n.fractionText ++ rest) = some (n.fraction, rest) := by
  rw [Numeral.fractionText]
  rcases hf : n.fraction with - | ⟨c, more⟩
  · rw [List.isEmpty_nil, if_pos rfl, List.nil_append, fraction?]
    intro more h
    exact (hr '.' (by rw [h]; rfl)).2 rfl
  · have hspan : Digits.span (c :: more ++ rest) = (c :: more, rest) :=
      Digits.span_append (hf ▸ hn.fraction) fun c hc => (hr c hc).1
    simp only [List.isEmpty_cons, Bool.false_eq_true, if_false, List.cons_append, fraction?] at *
    rw [hspan]
    simp

/-- The exponent of a well-formed number. -/
theorem exponent?_append {n : Numeral} (hn : n.WellFormed) {rest : List Char}
    (hr : EndsNumber rest) :
    exponent? (n.exponentText ++ rest) = some (n.exponent, rest) := by
  rw [Numeral.exponentText]
  rcases he : n.exponent with - | ⟨negative, digits⟩
  · rw [List.nil_append, exponent?]
    · intro more h
      exact (hr 'e' (by rw [h]; rfl)).2.2.1 rfl
    · intro more h
      exact (hr 'E' (by rw [h]; rfl)).2.2.2 rfl
  · obtain ⟨hne, hdigits⟩ := hn.exponent negative digits he
    have hspan : Digits.span (digits ++ rest) = (digits, rest) :=
      Digits.span_append hdigits fun c hc => (hr c hc).1
    have hdone : digits.isEmpty = false := List.isEmpty_eq_false_iff.mpr hne
    rcases negative with - | -
    · -- The first digit is not a sign.
      obtain ⟨c, more, rfl⟩ := List.exists_cons_of_ne_nil hne
      have hc : c.isDigit = true := hdigits c List.mem_cons_self
      have hsign : exponentDigits? (c :: more ++ rest) = some (some (false, c :: more), rest) := by
        rw [exponentDigits?]
        · dsimp only
          rw [hspan, hdone]
          rfl
        · intro _ h
          exact Digits.ne_of_isDigit hc rfl (List.cons.inj h).1
        · intro _ h
          exact Digits.ne_of_isDigit hc rfl (List.cons.inj h).1
      exact hsign
    · simp [exponent?, exponentDigits?, Binary64.signText, hspan, hdone]

/-- What follows the fraction does not go on with it. -/
theorem head_exponentText (n : Numeral) {rest : List Char} (hr : EndsNumber rest) :
    ∀ c ∈ (n.exponentText ++ rest).head?, c.isDigit = false ∧ c ≠ '.' := by
  intro c hc
  rw [Numeral.exponentText] at hc
  split at hc
  · exact ⟨(hr c hc).1, (hr c hc).2.1⟩
  · cases hc
    exact ⟨rfl, by decide⟩

/-- What follows the whole part does not go on with it. -/
theorem head_fractionText (n : Numeral) {rest : List Char} (hr : EndsNumber rest) :
    ∀ c ∈ (n.fractionText ++ (n.exponentText ++ rest)).head?, c.isDigit = false := by
  intro c hc
  rw [Numeral.fractionText] at hc
  split at hc
  · exact (head_exponentText n hr c hc).1
  · cases hc
    rfl

/-- A well-formed number is read back, and what follows it is left. -/
theorem numeral?_write_append {n : Numeral} (hn : n.WellFormed) {rest : List Char}
    (hr : EndsNumber rest) : numeral? (n.write ++ rest) = some (n, rest) := by
  have hwhole := whole?_append hn (head_fractionText n hr)
  have hfraction := fraction?_append hn (head_exponentText n hr)
  have hexponent := exponent?_append hn hr
  rw [Numeral.write_eq]
  simp only [List.append_assoc]
  rcases hs : n.negative with - | -
  · rw [Binary64.signText, if_neg Bool.false_ne_true, List.nil_append, numeral?]
    · dsimp only
      rw [hwhole]
      simp [hfraction, hexponent, ← hs]
    · -- The first digit is not a sign.
      intro more h
      obtain ⟨c, digits, hc⟩ := List.exists_cons_of_ne_nil hn.whole_ne_nil
      have hdigit : c.isDigit = true := hn.whole c (by rw [hc]; exact List.mem_cons_self)
      rw [hc] at h
      exact Digits.ne_of_isDigit hdigit rfl (List.cons.inj h).1
  · simp [Binary64.signText, numeral?, hwhole, hfraction, hexponent, ← hs]

/-! ## Numbers that were read -/

/-- A whole part that was read is one of a well-formed number. -/
theorem whole?_eq_some {s whole rest : List Char} (h : whole? s = some (whole, rest)) :
    (∀ c ∈ whole, c.isDigit = true) ∧ whole ≠ [] ∧ (whole.head? = some '0' → whole = ['0']) := by
  rw [whole?] at h
  have hdigits : ∀ c ∈ (Digits.span s).1, c.isDigit = true :=
    fun c hc => Digits.isDigit_of_mem_span hc
  revert h hdigits
  generalize Digits.span s = read
  obtain ⟨digits, after⟩ := read
  dsimp only
  split
  · nofun
  · nofun
  · rename_i hnil hzero
    rintro ⟨⟩ hdigits
    refine ⟨hdigits, hnil, fun hhead => ?_⟩
    rcases whole with - | ⟨c, - | ⟨d, more⟩⟩
    · exact absurd rfl hnil
    · rw [Option.some.inj hhead]
    · exact absurd (by rw [Option.some.inj hhead]) (hzero d more)

/-- A fraction that was read is made of digits. -/
theorem fraction?_eq_some {s fraction rest : List Char}
    (h : fraction? s = some (fraction, rest)) : ∀ c ∈ fraction, c.isDigit = true := by
  rw [fraction?.eq_def] at h
  split at h
  · dsimp only at h
    split at h
    · cases h
    · cases h
      exact fun c hc => Digits.isDigit_of_mem_span hc
  · cases h
    nofun

/-- The digits of an exponent that was read. -/
theorem exponentDigits?_eq_some {s rest : List Char} {exponent : Option (Bool × List Char)}
    (h : exponentDigits? s = some (exponent, rest)) :
    ∀ negative digits, exponent = some (negative, digits) →
      digits ≠ [] ∧ ∀ c ∈ digits, c.isDigit = true := by
  rintro negative digits rfl
  rw [exponentDigits?.eq_def] at h
  -- One case for each sign and one without: the digits are read alike.
  split at h
  all_goals
    dsimp only at h
    split at h
    · cases h
    · rename_i hne
      cases h
      exact ⟨fun hnil => hne (by rw [hnil]; rfl), fun c hc => Digits.isDigit_of_mem_span hc⟩

/-- A number that was read is well formed. -/
theorem numeral?_wellFormed {s rest : List Char} {n : Numeral}
    (h : numeral? s = some (n, rest)) : n.WellFormed := by
  rw [numeral?.eq_def] at h
  simp only [Option.bind_eq_bind, Option.bind_eq_some_iff] at h
  obtain ⟨⟨whole, s₁⟩, hwhole, ⟨fraction, s₂⟩, hfraction, ⟨exponent, s₃⟩, hexponent, hn⟩ := h
  cases hn
  obtain ⟨hdigits, hne, hlead⟩ := whole?_eq_some hwhole
  refine ⟨hdigits, hne, hlead, fraction?_eq_some hfraction, ?_⟩
  rw [exponent?.eq_def] at hexponent
  split at hexponent
  · exact exponentDigits?_eq_some hexponent
  · exact exponentDigits?_eq_some hexponent
  · cases hexponent
    nofun

/-- A number that a text is, is well formed. -/
theorem Numeral.read?_wellFormed {s : List Char} {n : Ensemble.Numeral}
    (h : Numeral.read? s = some n) : n.WellFormed := by
  rw [Numeral.read?] at h
  split at h
  · rename_i hread
    cases h
    exact numeral?_wellFormed hread
  · cases h

/-! ## Strings -/

/-- A digit of sixteen is read back. -/
theorem hex?_hexOf {value : Nat} (h : value < 16) : hex? (hexOf value) = some value := by
  have hall : ∀ value < 16, hex? (hexOf value) = some value := by decide
  exact hall value h

/-- An escaped unit is read back. -/
theorem stringParts?_escapeUnit {code : Nat} (h : code < 65536) (rest : List Char) :
    stringParts? (escapeUnit code ++ rest) =
      (stringParts? rest).map fun (parts, rest) => (.unit code :: parts, rest) := by
  have hdigit (value : Nat) : hex? (hexOf (value % 16)) = some (value % 16) :=
    hex?_hexOf (Nat.mod_lt _ (by decide))
  have hunit : unit? [hexOf (code / 4096 % 16), hexOf (code / 256 % 16), hexOf (code / 16 % 16),
      hexOf (code % 16)] = some code := by
    -- The four digits are those of the code to the base of 16.
    have hcode : (code / 4096 % 16 * 16 + code / 256 % 16) * 256 +
        (code / 16 % 16 * 16 + code % 16) = code := by omega
    simp only [unit?, hdigit, Option.bind_eq_bind, Option.bind_some, Option.pure_def, hcode]
  have hread : stringParts? (escapeUnit code ++ rest) =
      (unit? [hexOf (code / 4096 % 16), hexOf (code / 256 % 16), hexOf (code / 16 % 16),
        hexOf (code % 16)]).bind fun unit =>
          (stringParts? rest).bind fun (parts, rest) => some (.unit unit :: parts, rest) := rfl
  rw [hread, hunit, Option.bind_some]
  rcases stringParts? rest with - | ⟨parts, rest⟩ <;> rfl

/-- The part of a string that a character is written as. -/
def partOf (c : Char) : StringPart :=
  let n := c.toNat
  if n < 0x20 || (0x7F ≤ n && n ≤ 0x9F) || n == 0x2028 || n == 0x2029 then .unit n else .char c

/-- An escape of one letter is read back. -/
theorem stringParts?_shortEscape {e c : Char} (he : simpleEscape? e = some c) (hu : e ≠ 'u')
    (rest : List Char) :
    stringParts? ('\\' :: e :: rest) =
      (stringParts? rest).map fun (parts, rest) => (.char c :: parts, rest) := by
  rw [stringParts?, he]
  · rcases stringParts? rest with - | ⟨parts, rest⟩ <;> rfl
  · intro _ _ _ _ _ h
    exact absurd h hu

/-- A character that needs no escape is read back. -/
theorem stringParts?_plain {c : Char} (hcontrol : ¬ c.toNat < 0x20) (hquote : c ≠ '"')
    (hslash : c ≠ '\\') (rest : List Char) :
    stringParts? (c :: rest) =
      (stringParts? rest).map fun (parts, rest) => (.char c :: parts, rest) := by
  have hplain : (decide (c.toNat < 0x20) || c == '\\') = false := by
    rw [decide_eq_false hcontrol, beq_eq_false_iff_ne.mpr hslash, Bool.or_self]
  rw [stringParts?, hplain]
  · rcases stringParts? rest with - | ⟨parts, rest⟩ <;> rfl
  · exact hquote
  · intro _ _ _ _ _ h
    exact absurd h hslash
  · intro _ _ h
    exact absurd h hslash

/-- A character within a string is read back as its part. -/
theorem stringParts?_escapeChar (c : Char) (rest : List Char) :
    stringParts? (escapeChar c ++ rest) =
      (stringParts? rest).map fun (parts, rest) => (partOf c :: parts, rest) := by
  rw [escapeChar, partOf]
  dsimp only
  split
  · rename_i hquote
    obtain rfl := eq_of_beq hquote
    exact stringParts?_shortEscape rfl (by decide) rest
  rename_i hquote
  split
  · rename_i hslash
    obtain rfl := eq_of_beq hslash
    exact stringParts?_shortEscape rfl (by decide) rest
  rename_i hslash
  split
  · rename_i hcode
    simp only [Bool.or_eq_true, Bool.and_eq_true, decide_eq_true_eq, beq_iff_eq] at hcode
    exact stringParts?_escapeUnit (by omega) rest
  · rename_i hcode
    simp only [Bool.or_eq_true, decide_eq_true_eq, not_or] at hcode
    exact stringParts?_plain hcode.1.1.1 (by simpa using hquote) (by simpa using hslash) rest

/-- A unit that is no half of a pair stands for a character of its own. -/
theorem joinParts?_unit {code : Nat} (hhigh : isHighSurrogate code = false)
    (hlow : isLowSurrogate code = false) (parts : List StringPart) :
    joinParts? (.unit code :: parts) = (joinParts? parts).map (Char.ofNat code :: ·) := by
  rcases parts with - | ⟨c | low, parts⟩
  · simp [joinParts?, hhigh, hlow]
  · simp [joinParts?, hhigh, hlow]
  · simp [joinParts?, hhigh, hlow]

/-- The characters of a string are joined from their parts. -/
theorem joinParts?_map_partOf (cs : List Char) : joinParts? (cs.map partOf) = some cs := by
  induction cs with
  | nil => rfl
  | cons c cs ih =>
    rw [List.map_cons, partOf]
    split
    · rename_i hcode
      simp only [Bool.or_eq_true, Bool.and_eq_true, decide_eq_true_eq, beq_iff_eq] at hcode
      -- A character that is written as one unit is no surrogate.
      have hhigh : isHighSurrogate c.toNat = false := by
        simp only [isHighSurrogate, Bool.and_eq_false_iff, decide_eq_false_iff_not]
        omega
      have hlow : isLowSurrogate c.toNat = false := by
        simp only [isLowSurrogate, Bool.and_eq_false_iff, decide_eq_false_iff_not]
        omega
      rw [joinParts?_unit hhigh hlow, ih, Option.map_some, Char.ofNat_toNat]
    · rw [joinParts?, ih, Option.map_some]

/-- The parts of a whole text are read up to the closing quote. -/
theorem stringParts?_flatMap (cs rest : List Char) :
    stringParts? (cs.flatMap escapeChar ++ '"' :: rest) = some (cs.map partOf, rest) := by
  induction cs with
  | nil => simp [stringParts?]
  | cons c cs ih =>
    rw [List.flatMap_cons, List.append_assoc, stringParts?_escapeChar, ih]
    rfl

/-- The body of a string is read back, also if it denotes no text. -/
theorem writeString_append (text : Option String) :
    ∃ body, writeString text = '"' :: body ∧
      ∀ rest, stringText? (body ++ rest) = some (text, rest) := by
  rcases text with - | text
  · refine ⟨escapeUnit 0xD800 ++ ['"'], rfl, fun rest => ?_⟩
    rw [List.append_assoc, stringText?, stringParts?_escapeUnit (by decide)]
    simp [stringParts?, joinParts?, isHighSurrogate]
  · refine ⟨text.toList.flatMap escapeChar ++ ['"'], rfl, fun rest => ?_⟩
    rw [List.append_assoc, List.singleton_append, stringText?, stringParts?_flatMap,
      Option.map_some]
    simp [joinParts?_map_partOf]

end Json

end Ensemble
