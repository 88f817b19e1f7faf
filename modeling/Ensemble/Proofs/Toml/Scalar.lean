import Ensemble.Proofs.Number.Positional
import Ensemble.Toml.Reader
import Ensemble.Toml.Writer

/-!
# Values read back

What a setting is written as is read as the value of the setting, up to the end of its line
(`exists_text?`).  A number is not taken for a date or a time of day, since these need a hyphen or a
colon after their first digits (`dateTime?_eq_some`), and not for one in another base, since a zero
in front of a number is followed by a point or by the end of the line (`number?_digits`).
-/

namespace Ensemble.Toml

variable {s rest digits : List Char} {c : Char}

/-! ## Neither dates nor times -/

/-- A number of fixed length is read from as many digits. -/
theorem between?_eq_some {count low high value : Nat}
    (read : between? count low high s = some (value, rest)) :
    ∃ digits, s = digits ++ rest ∧ digits.length = count ∧ ∀ c ∈ digits, c.isDigit = true := by
  simp only [between?] at read
  split at read
  next found =>
    simp only [Bool.and_eq_true, decide_eq_true_eq, List.all_eq_true] at found
    cases read
    exact ⟨s.take count, (List.take_append_drop ..).symm, found.1.1.1, found.1.1.2⟩
  next => cases read

/-- A mark is read from where it stands. -/
theorem after?_eq_some (read : after? c s = some rest) : s = c :: rest := by
  rw [after?.eq_def] at read
  split at read
  next =>
    split at read
    next same => cases read; rw [beq_iff_eq.1 same]
    next => cases read
  next => cases read

/-- A date or a time of day starts with digits, and goes on with a hyphen or a colon. -/
theorem dateTime?_eq_some (read : dateTime? s = some rest) :
    ∃ digits c later, s = digits ++ c :: later ∧ digits ≠ [] ∧ (∀ c ∈ digits, c.isDigit = true) ∧
      (c = '-' ∨ c = ':') := by
  rw [dateTime?] at read
  split at read
  next found =>
    simp only [date?, Option.bind_eq_bind, Option.bind_eq_some_iff] at found
    -- a date starts with the year and a hyphen
    obtain ⟨⟨year, afterYear⟩, first, afterHyphen, hyphen, -⟩ := found
    obtain ⟨digits, rfl, length, all⟩ := between?_eq_some first
    obtain rfl := after?_eq_some hyphen
    exact ⟨digits, _, _, rfl, List.ne_nil_of_length_pos (by omega), all, .inl rfl⟩
  next =>
    simp only [timeOfDay?, Option.bind_eq_bind, Option.bind_eq_some_iff] at read
    -- a time starts with the hour and a colon
    obtain ⟨⟨hour, afterHour⟩, first, afterColon, colon, -⟩ := read
    obtain ⟨digits, rfl, length, all⟩ := between?_eq_some first
    obtain rfl := after?_eq_some colon
    exact ⟨digits, _, _, rfl, List.ne_nil_of_length_pos (by omega), all, .inr rfl⟩

/-- No date starts with a hyphen. -/
theorem dateTime?_hyphen (s : List Char) : dateTime? ('-' :: s) = none := by
  refine Option.eq_none_iff_forall_not_mem.2 fun rest read => ?_
  obtain ⟨digits, c, later, eq, some, all, -⟩ := dateTime?_eq_some read
  obtain ⟨d, more, rfl⟩ := List.exists_cons_of_ne_nil some
  exact Digits.ne_of_isDigit (all d List.mem_cons_self) rfl (List.cons.inj eq).1.symm

/-! ## Numbers -/

section Number

variable (whole : Digits.IsWhole digits) (ends : c = '.' ∨ c = '\n')

include ends

/-- The digits before a point or before the end of a line are no date. -/
theorem dateTime?_digits (all : ∀ c ∈ digits, c.isDigit = true) :
    dateTime? (digits ++ c :: rest) = none := by
  refine Option.eq_none_iff_forall_not_mem.2 fun read found => ?_
  obtain ⟨digits', c', later, eq, -, all', separates⟩ := dateTime?_eq_some found
  have span : Digits.span (digits ++ c :: rest) = (digits, c :: rest) :=
    Digits.span_append all (by rintro _ ⟨⟩; rcases ends with rfl | rfl <;> rfl)
  have span' : Digits.span (digits' ++ c' :: later) = (digits', c' :: later) :=
    Digits.span_append all' (by rintro _ ⟨⟩; rcases separates with rfl | rfl <;> rfl)
  rw [eq, span'] at span
  obtain ⟨rfl, -⟩ := List.cons.inj (Prod.mk.inj span).2
  rcases ends with rfl | rfl <;> simp at separates

/-- Digits without underscores are read up to a point or the end of a line. -/
theorem digitsFrom?_digits (all : ∀ c ∈ digits, c.isDigit = true) :
    digitsFrom? Char.isDigit false (digits ++ c :: rest) = some (digits, c :: rest) := by
  induction digits with
  | nil => rcases ends with rfl | rfl <;> rfl
  | cons d digits ih =>
    rw [List.forall_mem_cons] at all
    rw [List.cons_append, digitsFrom?, if_pos all.1, ih all.2]
    rfl

/-- Digits are read up to the first character that neither is one nor groups them. -/
theorem groupedDigits?_digits (all : ∀ c ∈ digits, c.isDigit = true) (some : digits ≠ []) :
    groupedDigits? Char.isDigit (digits ++ c :: rest) = .some (digits, c :: rest) := by
  obtain ⟨d, digits, rfl⟩ := List.exists_cons_of_ne_nil some
  rw [List.forall_mem_cons] at all
  rw [groupedDigits?, List.cons_append, digitsFrom?, if_pos all.1, digitsFrom?_digits ends all.2]
  rfl

include whole

/-- A whole number is read as the whole part up to the mark after it. -/
theorem wholePart?_digits : wholePart? (digits ++ c :: rest) = some (digits, c :: rest) := by
  obtain ⟨d, more, rfl, digit⟩ := whole.exists_eq_cons
  rw [wholePart?.eq_def]
  split
  next eq =>
    -- The digits start with a zero, so that they are the zero.
    obtain ⟨rfl, rfl⟩ := List.cons.inj eq
    have alone : more = [] := (List.cons.inj (whole.leading rfl)).2
    rw [alone]
    rfl
  next => exact groupedDigits?_digits ends whole.isDigit whole.ne_nil

omit ends in
/-- A zero in front is followed by what ends the digits. -/
theorem eq_of_digits_eq_zero_cons {d : Char} {later : List Char}
    (eq : digits ++ c :: rest = '0' :: d :: later) : d = c := by
  obtain ⟨first, more, rfl, digit⟩ := whole.exists_eq_cons
  obtain ⟨rfl, after⟩ := List.cons.inj eq
  rw [(List.cons.inj (whole.leading rfl)).2] at after
  exact (List.cons.inj after).1.symm

omit ends in
/-- The digits are not the start of a sign or a word. -/
theorem digits_ne_cons {d : Char} (other : d.isDigit = false) (later : List Char) :
    digits ++ c :: rest ≠ d :: later := by
  obtain ⟨first, more, rfl, digit⟩ := whole.exists_eq_cons
  intro eq
  exact Digits.ne_of_isDigit digit other (List.cons.inj eq).1

omit ends in
/-- A number after its sign that starts with a digit is a decimal number. -/
theorem signed?_digits (negative : Bool) :
    signed? negative (digits ++ c :: rest) = decimal? negative (digits ++ c :: rest) := by
  rw [signed?]
  · exact fun later => digits_ne_cons whole rfl _
  · exact fun later => digits_ne_cons whole rfl _

/-- A number that starts with a digit is a decimal number. -/
theorem number?_digits : number? (digits ++ c :: rest) = decimal? false (digits ++ c :: rest) := by
  have base {d : Char} (letter : d ≠ '.' ∧ d ≠ '\n') (later : List Char) :
      digits ++ c :: rest ≠ '0' :: d :: later := by
    intro eq
    obtain rfl := eq_of_digits_eq_zero_cons whole eq
    exact ends.elim letter.1 letter.2
  rw [number?, signed?_digits whole]
  · exact base (by decide)
  · exact base (by decide)
  · exact base (by decide)
  · exact digits_ne_cons whole rfl
  · exact digits_ne_cons whole rfl

end Number

/-- Integers that can be written fit into a word. -/
theorem isWord_of_le {n : Nat} (small : n ≤ maxInteger) : isWord n = true := by
  have bound : maxInteger + 1 = Nat.pow 2 63 := rfl
  rw [isWord, ← bound, Bool.and_eq_true, decide_eq_true_eq, decide_eq_true_eq]
  omega

/-- A natural number of 64 bits is read up to the end of its line. -/
theorem decimal?_ofNat {n : Nat} (small : n ≤ maxInteger) (rest : List Char) :
    decimal? false (Digits.ofNat n ++ '\n' :: rest) = some (.integer n, '\n' :: rest) := by
  have whole : wholePart? (Digits.ofNat n ++ '\n' :: rest) = some (Digits.ofNat n, '\n' :: rest) :=
    wholePart?_digits (Digits.isWhole_ofNat n) (.inr rfl)
  have fraction : fraction? ('\n' :: rest) = some ([], '\n' :: rest) := rfl
  have exponent : exponent? ('\n' :: rest) = some ([], '\n' :: rest) := rfl
  have integer : integerOf? (Digits.toNat (Digits.ofNat n)) = some (.integer n) := by
    rw [Digits.toNat_ofNat, integerOf?, if_pos (isWord_of_le small)]
  refine Option.bind_eq_some_iff.2 ⟨_, whole, Option.bind_eq_some_iff.2 ⟨_, fraction,
    Option.bind_eq_some_iff.2 ⟨_, exponent, ?_⟩⟩⟩
  dsimp only
  rw [List.isEmpty_nil, Bool.and_self, if_pos rfl, if_neg Bool.false_ne_true, integer]
  rfl

/-- The text of an integer is read as that integer. -/
theorem numberOrDate?_ofNat {n : Nat} (small : n ≤ maxInteger) (rest : List Char) :
    numberOrDate? (Digits.ofNat n ++ '\n' :: rest) = some (.integer n, '\n' :: rest) := by
  have whole := Digits.isWhole_ofNat n
  rw [numberOrDate?, dateTime?_digits (.inr rfl) whole.isDigit]
  dsimp only
  rw [number?_digits whole (.inr rfl), decimal?_ofNat small]

/-- What follows the sign of a decimal with a point is read up to the end of its line. -/
theorem decimal?_text {p : Binary64.Positional} {negative : Bool}
    (finite : (p.value negative).isFinite = true) (rest : List Char) :
    decimal? negative (p.text ++ '\n' :: rest) =
      some (.float (p.value negative), '\n' :: rest) := by
  have fraction : groupedDigits? Char.isDigit (p.fraction ++ '\n' :: rest) =
      some (p.fraction, '\n' :: rest) :=
    groupedDigits?_digits (.inr rfl) p.isDigit_fraction p.fraction_ne_nil
  have literal := p.ofLiteral?_text negative
  have float :
      floatOf? (Binary64.signText negative ++ p.text) = some (.float (p.value negative)) := by
    rw [floatOf?, literal]
    generalize p.value negative = x at finite
    cases x with
    | finite => rfl
    | nan => cases finite
    | infinite => cases finite
  have exponent : exponent? ('\n' :: rest) = some ([], '\n' :: rest) := rfl
  rw [Binary64.signText, Binary64.Positional.text] at float
  rw [decimal?, p.text_append, wholePart?_digits p.isWhole (.inl rfl)]
  simp only [Option.bind_eq_bind, Option.bind_some, fraction?, fraction, exponent, Option.map_some,
    List.isEmpty_cons, Bool.false_and, Bool.false_eq_true, if_false, List.append_nil,
    List.append_assoc, float, Option.pure_def]

/-- The text of a finite number is read as that number. -/
theorem numberOrDate?_text {p : Binary64.Positional} {negative : Bool}
    (finite : (p.value negative).isFinite = true) (rest : List Char) :
    numberOrDate? (Binary64.signText negative ++ p.text ++ '\n' :: rest) =
      some (.float (p.value negative), '\n' :: rest) := by
  have decimal := decimal?_text finite rest
  rw [List.append_assoc]
  rw [p.text_append] at decimal ⊢
  -- A sign rules out a date at once; without one the point behind the digits does.
  cases negative with
  | false =>
    rw [Binary64.signText, if_neg Bool.false_ne_true, List.nil_append, numberOrDate?,
      dateTime?_digits (.inl rfl) p.isWhole.isDigit]
    dsimp only
    rw [number?_digits p.isWhole (.inl rfl), decimal]
  | true =>
    rw [Binary64.signText, if_pos rfl, List.singleton_append, numberOrDate?, dateTime?_hyphen]
    dsimp only
    rw [number?, signed?_digits p.isWhole, decimal]

/-! ## Settings -/

/-- The value that a setting stands for. -/
def Setting.toToml : Setting → Toml
  | .boolean value => .boolean value
  | .integer value => .integer value
  | .float value => .float value

/-- Whether the number of a setting is an integer or a finite number of 64 bits. -/
def Setting.IsReadable : Setting → Prop
  | .boolean _ => True
  | .integer n => n ≤ maxInteger
  | .float x => x.isFinite = true ∧ x.IsRepresentable

/-- A finite number is written out with a point. -/
theorem exists_floatText_eq {negative : Bool} {units : Nat}
    (valid : (Binary64.finite negative units).IsRepresentable) :
    ∃ p : Binary64.Positional,
      (floatText (.finite negative units)).toList = Binary64.signText negative ++ p.text ∧
        p.value negative = .finite negative units := by
  have rounded := Binary64.ofDecimal_shortest negative valid
  have whole :
      isWhole (.finite negative units) = true ↔ 0 ≤ (Binary64.shortest units).exponent := by
    rw [Binary64.exponent_shortest_nonneg_iff valid, isWhole, beq_iff_eq]
    exact Nat.dvd_iff_mod_eq_zero.symm
  -- whole numbers are written with a fraction of zero, others with the places they need
  by_cases fraction : 0 ≤ (Binary64.shortest units).exponent
  · obtain ⟨p, text, value⟩ := Binary64.Decimal.exists_text_eq_append fraction
    refine ⟨p, ?_, (value negative).trans rounded⟩
    rw [text, floatText, if_pos (whole.2 fraction)]
    · simp [Binary64.plain]
    all_goals nofun
  · obtain ⟨p, text, value⟩ := Binary64.Decimal.exists_text_eq (Int.not_le.1 fraction)
    refine ⟨p, ?_, (value negative).trans rounded⟩
    rw [text, floatText, if_neg (mt whole.1 fraction)]
    · simp [Binary64.plain]
    all_goals nofun

/-- A number is read as a number wherever a value may stand. -/
theorem value?_number (number : c.isDigit = true ∨ c = '-') (steps nesting : Nat) (s : List Char) :
    value? (steps + 1) nesting (skipSpace (c :: s)) = numberOrDate? (c :: s) := by
  have ne {d : Char} (other : d.isDigit = false ∧ d ≠ '-') : c ≠ d := by
    rcases number with digit | rfl
    · exact Digits.ne_of_isDigit digit other.1
    · exact other.2.symm
  have start : isSpace c = false := by
    rw [isSpace, beq_false_of_ne (ne (by decide)), beq_false_of_ne (ne (by decide)), Bool.or_self]
  rw [skipSpace, List.dropWhile_cons_of_neg (Bool.not_eq_true _ ▸ start), value?]
  -- A number starts like no other value.
  all_goals exact fun _ eq => ne (by decide) (List.cons.inj eq).1

/-- A setting has a text, which is read as its value up to the end of the line. -/
theorem exists_text? {setting : Setting} (readable : setting.IsReadable) :
    ∃ text, setting.text? = some text ∧ ∀ steps nesting rest,
      value? (steps + 1) nesting (skipSpace (text.toList ++ '\n' :: rest)) =
        some (setting.toToml, '\n' :: rest) := by
  cases setting with
  | boolean value => cases value <;> exact ⟨_, rfl, fun _ _ _ => rfl⟩
  | integer n =>
    refine ⟨toString n, if_pos readable, fun steps nesting rest => ?_⟩
    have digits : (toString n).toList = Digits.ofNat n := Nat.toList_repr
    have number := numberOrDate?_ofNat readable rest
    -- the value is known for a number by its first character
    obtain ⟨c, more, cons, digit⟩ := (Digits.isWhole_ofNat n).exists_eq_cons
    rw [digits]
    rw [cons] at number ⊢
    exact (value?_number (.inl digit) steps nesting _).trans number
  | float x =>
    obtain ⟨finite, valid⟩ := readable
    cases x with
    | nan => cases finite
    | infinite => cases finite
    | finite negative units =>
      obtain ⟨p, text, value⟩ := exists_floatText_eq valid
      refine ⟨_, rfl, fun steps nesting rest => ?_⟩
      have number := numberOrDate?_text (value ▸ finite) rest
      rw [value] at number
      rw [text]
      cases negative with
      | false =>
        obtain ⟨c, more, cons, digit⟩ := p.exists_text_eq_cons
        rw [Binary64.signText, if_neg Bool.false_ne_true, List.nil_append, cons] at number ⊢
        exact (value?_number (.inl digit) steps nesting _).trans number
      | true => exact (value?_number (.inr rfl) steps nesting _).trans number

end Ensemble.Toml
