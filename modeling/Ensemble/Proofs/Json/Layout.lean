import Ensemble.Proofs.Json.Token

/-!
# Documents read back in any layout

A value is a row of tokens, and a text lays it out if it is these tokens with blanks around them: on
one line, or indented over many.  Every layout of a well-formed value is read as that value
(`read?_of_laid`), and what `Json.write` writes is one of them.

The reader is bounded by a count of steps.  Each of its nested calls takes a token away, so the
count of tokens bounds the steps that a value takes.
-/

namespace Ensemble.Json

/-! ## Tokens -/

mutual

/-- The tokens of a value. -/
def tokens : Json → List (List Char)
  | .null => ["null".toList]
  | .bool true => ["true".toList]
  | .bool false => ["false".toList]
  | .number n => [n.write]
  | .string text => [writeString text]
  | .array items => ['['] :: itemTokens items
  | .object members => ['\x7b'] :: memberTokens members

/-- The tokens of the items of an array and its closing bracket. -/
def itemTokens : List Json → List (List Char)
  | [] => [[']']]
  | [item] => tokens item ++ [[']']]
  | item :: rest => tokens item ++ [','] :: itemTokens rest

/-- The tokens of the members of an object and its closing brace. -/
def memberTokens : List (Option String × Json) → List (List Char)
  | [] => [['\x7d']]
  | [(name, value)] => writeString name :: [':'] :: (tokens value ++ [['\x7d']])
  | (name, value) :: rest =>
    writeString name :: [':'] :: (tokens value ++ [','] :: memberTokens rest)

end

/-- An item that is not the last one is followed by a comma. -/
theorem itemTokens_cons (item : Json) {rest : List Json} (h : rest ≠ []) :
    itemTokens (item :: rest) = tokens item ++ [','] :: itemTokens rest := by
  rw [itemTokens]
  exact h

/-- A member that is not the last one is followed by a comma. -/
theorem memberTokens_cons (name : Option String) (value : Json)
    {rest : List (Option String × Json)} (h : rest ≠ []) :
    memberTokens ((name, value) :: rest) =
      writeString name :: [':'] :: (tokens value ++ [','] :: memberTokens rest) := by
  rw [memberTokens]
  exact h

/-- A text that consists of tokens, none of them empty, with blanks around them. -/
inductive Laid : List (List Char) → List Char → Prop
  | nil {blank : List Char} (h : ∀ c ∈ blank, isSpace c = true) : Laid [] blank
  | cons {blank : List Char} {c : Char} {token rest : List Char} {ts : List (List Char)}
      (h : ∀ c ∈ blank, isSpace c = true) (more : Laid ts rest) :
      Laid ((c :: token) :: ts) (blank ++ c :: (token ++ rest))

/-- A token may stand without blanks. -/
theorem Laid.token {ts : List (List Char)} {rest : List Char} (h : Laid ts rest) (c : Char)
    (token : List Char) : Laid ((c :: token) :: ts) (c :: (token ++ rest)) :=
  @Laid.cons [] c token rest ts nofun h

/-- A text has a character for each of its tokens. -/
theorem Laid.length_le {ts : List (List Char)} {text : List Char} (h : Laid ts text) :
    ts.length ≤ text.length := by
  induction h with
  | nil _ => exact Nat.zero_le _
  | cons _ _ ih =>
    simp only [List.length_append, List.length_cons]
    omega

/-- A value whose numbers are well formed. -/
inductive WellFormed : Json → Prop
  | null : WellFormed .null
  | bool (b : Bool) : WellFormed (.bool b)
  | number {n : Numeral} (h : n.WellFormed) : WellFormed (.number n)
  | string (text : Option String) : WellFormed (.string text)
  | array {items : List Json} (h : ∀ v ∈ items, WellFormed v) : WellFormed (.array items)
  | object {members : List (Option String × Json)} (h : ∀ m ∈ members, WellFormed m.2) :
      WellFormed (.object members)

/-! ## Blanks -/

/-- Blanks are skipped up to the first character of the next token. -/
theorem skipSpace_of_laid {c : Char} {token text : List Char} {ts : List (List Char)}
    (hc : isSpace c = false) (h : Laid ((c :: token) :: ts) text) :
    ∃ rest, skipSpace text = c :: (token ++ rest) ∧ Laid ts rest := by
  rcases h with - | ⟨hblank, more⟩
  rename_i rest
  refine ⟨rest, ?_, more⟩
  have hstop : ¬ isSpace c = true := by
    rw [hc]
    exact Bool.false_ne_true
  rw [skipSpace, List.dropWhile_append_of_pos hblank, List.dropWhile_cons_of_neg hstop]

/-- Only blanks are left after the last token. -/
theorem skipSpace_of_laid_nil {text : List Char} (h : Laid [] text) : skipSpace text = [] := by
  rcases h with ⟨hblank⟩
  have hall := @List.dropWhile_append_of_pos _ isSpace text [] hblank
  rwa [List.append_nil] at hall

/-- What is left after skipping blanks is laid out in the same way. -/
theorem Laid.skipSpace {c : Char} {token text : List Char} {ts : List (List Char)}
    (hc : isSpace c = false) (h : Laid ((c :: token) :: ts) text) :
    Laid ((c :: token) :: ts) (skipSpace text) := by
  obtain ⟨rest, hskip, more⟩ := skipSpace_of_laid hc h
  rw [hskip]
  exact more.token c token

/-- What may stand after a value: nothing, a separator or a closing bracket. -/
def Follows (ts : List (List Char)) : Prop :=
  ∀ t ∈ ts.head?, t = [','] ∨ t = [']'] ∨ t = ['\x7d']

/-- A number ends before whatever may follow it, with blanks or without. -/
theorem endsNumber_of_laid {ts : List (List Char)} {rest : List Char} (h : Laid ts rest)
    (hts : Follows ts) : EndsNumber rest := by
  have hspace (c : Char) (hc : isSpace c = true) :
      c.isDigit = false ∧ c ≠ '.' ∧ c ≠ 'e' ∧ c ≠ 'E' := by
    simp only [isSpace, Bool.or_eq_true, beq_iff_eq] at hc
    rcases hc with ((rfl | rfl) | rfl) | rfl <;> decide
  intro c hc
  cases h with
  | nil hblank => exact hspace c (hblank c (List.mem_of_mem_head? hc))
  | @cons blank d token after ts hblank more =>
    -- Either a blank stands next, or the token that must separate.
    rcases blank with - | ⟨b, blank⟩
    · cases hc
      have htoken := hts (c :: token) rfl
      rcases htoken with h | h | h <;> cases h <;> decide
    · cases hc
      exact hspace c (hblank c List.mem_cons_self)

/-! ## Values -/

/-- What a number starts with starts nothing else. -/
theorem ne_of_startsNumber {c d : Char} (hc : c = '-' ∨ c.isDigit = true)
    (hd : d.isDigit = false) (hsign : d ≠ '-') : c ≠ d := by
  rcases hc with rfl | hc
  · exact hsign.symm
  · exact Digits.ne_of_isDigit hc hd

/-- A number starts with a digit or a sign. -/
theorem write_head {n : Numeral} (h : n.WellFormed) :
    ∃ c more, n.write = c :: more ∧ (c = '-' ∨ c.isDigit = true) := by
  obtain ⟨c, more, hc⟩ := List.exists_cons_of_ne_nil h.whole_ne_nil
  rw [Numeral.write_eq, hc]
  rcases n.negative with - | -
  · exact ⟨c, _, rfl, .inr (h.whole c (by rw [hc]; exact List.mem_cons_self))⟩
  · exact ⟨'-', _, rfl, .inl rfl⟩

/-- A number does not start with a blank. -/
theorem isSpace_of_startsNumber {c : Char} (hc : c = '-' ∨ c.isDigit = true) :
    isSpace c = false := by
  have hne {d : Char} (hd : d.isDigit = false) (hsign : d ≠ '-') : (c == d) = false :=
    beq_eq_false_iff_ne.mpr (ne_of_startsNumber hc hd hsign)
  rw [isSpace, hne rfl (by decide), hne rfl (by decide), hne rfl (by decide),
    hne rfl (by decide)]
  rfl

/-- The first token of a value starts with a character that is neither a blank nor a bracket that
closes an array. -/
theorem tokens_head {v : Json} (h : v.WellFormed) :
    ∃ c token ts, v.tokens = (c :: token) :: ts ∧ isSpace c = false ∧ c ≠ ']' := by
  rcases h with - | b | hn | text | hitems | hmembers
  · exact ⟨'n', _, _, rfl, by decide⟩
  · rcases b with - | -
    · exact ⟨'f', _, _, rfl, by decide⟩
    · exact ⟨'t', _, _, rfl, by decide⟩
  · obtain ⟨c, more, hwrite, hc⟩ := write_head hn
    exact ⟨c, more, [], by rw [tokens, hwrite], isSpace_of_startsNumber hc,
      ne_of_startsNumber hc rfl (by decide)⟩
  · exact ⟨'"', _, _, by rw [tokens]; rfl, by decide⟩
  · exact ⟨'[', _, _, by rw [tokens], by decide⟩
  · exact ⟨'\x7b', _, _, by rw [tokens], by decide⟩

/-- A value is read from the start of every text that lays it out, and what follows is left. -/
def ReadBack (v : Json) : Prop :=
  ∀ {steps : Nat} {ts : List (List Char)} {text : List Char}, v.tokens.length ≤ steps →
    Laid (v.tokens ++ ts) text → Follows ts →
    ∃ rest, value? steps text = some (v, rest) ∧ Laid ts rest

/-- A value of one token is read back if it is read from that token. -/
theorem readBack_token {v : Json} {c : Char} {token : List Char} (hv : v.tokens = [c :: token])
    (hc : isSpace c = false)
    (hread : ∀ steps s rest, skipSpace s = c :: (token ++ rest) → EndsNumber rest →
      value? (steps + 1) s = some (v, rest)) : ReadBack v := by
  intro steps ts text hsteps h hts
  rw [hv] at hsteps h
  obtain ⟨steps, rfl⟩ : ∃ n, steps = n + 1 := ⟨steps - 1, (Nat.sub_add_cancel hsteps).symm⟩
  obtain ⟨rest, hskip, more⟩ := skipSpace_of_laid hc h
  exact ⟨rest, hread steps text rest hskip (endsNumber_of_laid more hts), more⟩

/-- Where a number starts, a number is read. -/
theorem value?_number {s more : List Char} {c : Char} (hs : skipSpace s = c :: more)
    (hc : c = '-' ∨ c.isDigit = true) (steps : Nat) :
    value? (steps + 1) s = (numeral? (c :: more)).map fun (n, rest) => (.number n, rest) := by
  have hne {d : Char} {rest : List Char} {P : Prop} (h : c :: more = d :: rest)
      (hd : d.isDigit = false) (hsign : d ≠ '-') : P :=
    absurd (List.cons.inj h).1 (ne_of_startsNumber hc hd hsign)
  rw [value?, hs]
  split
  next h => exact hne h rfl (by decide)
  next h => exact hne h rfl (by decide)
  next h => exact hne h rfl (by decide)
  next h => exact hne h rfl (by decide)
  next h => exact hne h rfl (by decide)
  next h => exact hne h rfl (by decide)
  next => rfl

/-- Items are read up to the bracket that closes them, if each of them is read back. -/
theorem items?_of_laid {items : List Json} (hne : items ≠ []) (hread : ∀ v ∈ items, ReadBack v)
    {steps : Nat} {ts : List (List Char)} {text : List Char}
    (hsteps : (itemTokens items).length ≤ steps) (h : Laid (itemTokens items ++ ts) text) :
    ∃ rest, items? steps text = some (items, rest) ∧ Laid ts rest := by
  induction items generalizing steps text with
  | nil => exact absurd rfl hne
  | cons v items ih =>
    have hv : ReadBack v := hread v List.mem_cons_self
    -- The last item is followed by the closing bracket, every other one by a comma.
    by_cases hlast : items = []
    · subst hlast
      rw [itemTokens, List.length_append, List.length_singleton] at hsteps
      rw [itemTokens, List.append_assoc] at h
      obtain ⟨steps, rfl⟩ : ∃ n, steps = n + 1 := ⟨steps - 1, by omega⟩
      have hlen : v.tokens.length ≤ steps := by omega
      obtain ⟨rest, hvalue, more⟩ := hv hlen h (by simp [Follows])
      obtain ⟨rest, hskip, more⟩ := skipSpace_of_laid (by decide) more
      refine ⟨rest, ?_, more⟩
      rw [items?, hvalue]
      simp [hskip]
    · rw [itemTokens_cons v hlast, List.length_append, List.length_cons] at hsteps
      rw [itemTokens_cons v hlast, List.append_assoc] at h
      obtain ⟨steps, rfl⟩ : ∃ n, steps = n + 1 := ⟨steps - 1, by omega⟩
      have hlen : v.tokens.length ≤ steps := by omega
      obtain ⟨rest, hvalue, more⟩ := hv hlen h (by simp [Follows])
      obtain ⟨rest, hskip, more⟩ := skipSpace_of_laid (by decide) more
      have hitems : ∀ w ∈ items, ReadBack w := fun w hw => hread w (List.mem_cons_of_mem _ hw)
      have hlens : (itemTokens items).length ≤ steps := by omega
      obtain ⟨rest, hrest, more⟩ := ih hlast hitems hlens more
      refine ⟨rest, ?_, more⟩
      rw [items?, hvalue]
      simp [hskip, hrest]

/-- The name of a member and its colon are read before its value. -/
theorem members?_of_laid {members : List (Option String × Json)} (hne : members ≠ [])
    (hread : ∀ m ∈ members, ReadBack m.2) {steps : Nat} {ts : List (List Char)} {text : List Char}
    (hsteps : (memberTokens members).length ≤ steps)
    (h : Laid (memberTokens members ++ ts) text) :
    ∃ rest, members? steps text = some (members, rest) ∧ Laid ts rest := by
  induction members generalizing steps text with
  | nil => exact absurd rfl hne
  | cons m members ih =>
    obtain ⟨name, v⟩ := m
    have hv : ReadBack v := hread (name, v) List.mem_cons_self
    obtain ⟨body, hname, hbody⟩ := writeString_append name
    -- As for items: a bracket after the last member, a comma after any other.
    by_cases hlast : members = []
    · subst hlast
      rw [memberTokens, hname] at hsteps h
      simp only [List.length_cons, List.length_append, List.length_nil] at hsteps
      simp only [List.cons_append, List.append_assoc] at h
      obtain ⟨steps, rfl⟩ : ∃ n, steps = n + 1 := ⟨steps - 1, by omega⟩
      have hlen : v.tokens.length ≤ steps := by omega
      obtain ⟨rest, hquote, more⟩ := skipSpace_of_laid (by decide) h
      obtain ⟨rest₁, hcolon, more⟩ := skipSpace_of_laid (by decide) more
      obtain ⟨rest₂, hvalue, more⟩ := hv hlen more (by simp [Follows])
      obtain ⟨rest₃, hskip, more⟩ := skipSpace_of_laid (by decide) more
      refine ⟨rest₃, ?_, more⟩
      rw [members?, hquote]
      simp [hbody, hcolon, hvalue, hskip]
    · rw [memberTokens_cons name v hlast, hname] at hsteps h
      simp only [List.length_cons, List.length_append] at hsteps
      simp only [List.cons_append, List.append_assoc] at h
      obtain ⟨steps, rfl⟩ : ∃ n, steps = n + 1 := ⟨steps - 1, by omega⟩
      have hlen : v.tokens.length ≤ steps := by omega
      obtain ⟨rest, hquote, more⟩ := skipSpace_of_laid (by decide) h
      obtain ⟨rest₁, hcolon, more⟩ := skipSpace_of_laid (by decide) more
      obtain ⟨rest₂, hvalue, more⟩ := hv hlen more (by simp [Follows])
      obtain ⟨rest₃, hskip, more⟩ := skipSpace_of_laid (by decide) more
      have hmembers : ∀ n ∈ members, ReadBack n.2 :=
        fun n hn => hread n (List.mem_cons_of_mem _ hn)
      have hlens : (memberTokens members).length ≤ steps := by omega
      obtain ⟨rest₄, hrest, more⟩ := ih hlast hmembers hlens more
      refine ⟨rest₄, ?_, more⟩
      rw [members?, hquote]
      simp [hbody, hcolon, hvalue, hskip, hrest]

/-- A row of items starts as its first item does. -/
theorem itemTokens_head {c : Char} {token : List Char} {ts : List (List Char)} {v : Json}
    (h : v.tokens = (c :: token) :: ts) (items : List Json) :
    ∃ ts, itemTokens (v :: items) = (c :: token) :: ts := by
  by_cases hlast : items = []
  · subst hlast
    exact ⟨ts ++ [[']']], by rw [itemTokens, h, List.cons_append]⟩
  · exact ⟨ts ++ [','] :: itemTokens items, by rw [itemTokens_cons v hlast, h, List.cons_append]⟩

/-- A row of members starts with a name. -/
theorem memberTokens_head (name : Option String) (v : Json)
    (members : List (Option String × Json)) :
    ∃ token ts, memberTokens ((name, v) :: members) = ('"' :: token) :: ts := by
  obtain ⟨body, hname, -⟩ := writeString_append name
  by_cases hlast : members = []
  · subst hlast
    exact ⟨body, _, by rw [memberTokens, hname]⟩
  · exact ⟨body, _, by rw [memberTokens_cons name v hlast, hname]⟩

/-- An array is read back if its items are. -/
theorem readBack_array {items : List Json} (hread : ∀ v ∈ items, ReadBack v)
    (hhead : ∀ v ∈ items, ∃ c token ts, v.tokens = (c :: token) :: ts ∧ isSpace c = false ∧
      c ≠ ']') : ReadBack (.array items) := by
  intro steps ts text hsteps h _
  rw [tokens, List.length_cons] at hsteps
  rw [tokens] at h
  obtain ⟨steps, rfl⟩ : ∃ n, steps = n + 1 := ⟨steps - 1, by omega⟩
  have hlen : (itemTokens items).length ≤ steps := by omega
  obtain ⟨rest, hopen, more⟩ := skipSpace_of_laid (by decide) h
  rcases items with - | ⟨v, items⟩
  · rw [itemTokens] at more
    obtain ⟨rest₁, hclose, more⟩ := skipSpace_of_laid (by decide) more
    refine ⟨rest₁, ?_, more⟩
    rw [value?, hopen]
    simp [hclose]
  · -- The first item does not begin with a bracket, or the array would be read as empty.
    obtain ⟨c, token, tail, hv, hspace, hc⟩ := hhead v List.mem_cons_self
    obtain ⟨tail, hrow⟩ := itemTokens_head hv items
    have hlaid : Laid (itemTokens (v :: items) ++ ts) (skipSpace rest) := by
      rw [hrow] at more ⊢
      exact Laid.skipSpace hspace more
    obtain ⟨rest₁, hitems, hafter⟩ := items?_of_laid (List.cons_ne_nil v items) hread hlen hlaid
    refine ⟨rest₁, ?_, hafter⟩
    rw [hrow] at more
    obtain ⟨rest₂, hskip, -⟩ := skipSpace_of_laid hspace more
    rw [value?, hopen]
    rw [hskip] at hitems
    simp only [List.nil_append, hskip]
    split
    · rename_i heq
      exact absurd (List.cons.inj heq).1 hc
    · rw [hitems, Option.map_some]

/-- An object is read back if the values of its members are. -/
theorem readBack_object {members : List (Option String × Json)}
    (hread : ∀ m ∈ members, ReadBack m.2) : ReadBack (.object members) := by
  intro steps ts text hsteps h _
  rw [tokens, List.length_cons] at hsteps
  rw [tokens] at h
  obtain ⟨steps, rfl⟩ : ∃ n, steps = n + 1 := ⟨steps - 1, by omega⟩
  have hlen : (memberTokens members).length ≤ steps := by omega
  obtain ⟨rest, hopen, more⟩ := skipSpace_of_laid (by decide) h
  rcases members with - | ⟨⟨name, v⟩, members⟩
  · rw [memberTokens] at more
    obtain ⟨rest₁, hclose, more⟩ := skipSpace_of_laid (by decide) more
    refine ⟨rest₁, ?_, more⟩
    rw [value?, hopen]
    simp [hclose]
  · obtain ⟨token, tail, hrow⟩ := memberTokens_head name v members
    have hlaid : Laid (memberTokens ((name, v) :: members) ++ ts) (skipSpace rest) := by
      rw [hrow] at more ⊢
      exact Laid.skipSpace (by decide) more
    obtain ⟨rest₁, hmembers, hafter⟩ :=
      members?_of_laid (List.cons_ne_nil _ _) hread hlen hlaid
    refine ⟨rest₁, ?_, hafter⟩
    rw [hrow] at more
    obtain ⟨rest₂, hskip, -⟩ := skipSpace_of_laid (by decide) more
    rw [value?, hopen]
    rw [hskip] at hmembers
    simp only [List.nil_append, hskip]
    split
    · rename_i heq
      exact absurd (List.cons.inj heq).1 (by decide)
    · rw [hmembers, Option.map_some]

/-- Well-formed values are read back. -/
theorem WellFormed.readBack {v : Json} (h : v.WellFormed) : ReadBack v := by
  induction h with
  | null =>
    refine readBack_token (c := 'n') rfl rfl fun steps s rest hs _ => ?_
    rw [value?, hs]
    rfl
  | bool b =>
    rcases b with - | -
    · refine readBack_token (c := 'f') rfl rfl fun steps s rest hs _ => ?_
      rw [value?, hs]
      rfl
    · refine readBack_token (c := 't') rfl rfl fun steps s rest hs _ => ?_
      rw [value?, hs]
      rfl
  | @number n hn =>
    -- A number is told from the other values by its first character.
    obtain ⟨c, more, hwrite, hc⟩ := write_head hn
    refine readBack_token (by rw [tokens, hwrite]) (isSpace_of_startsNumber hc)
      fun steps s rest hs hrest => ?_
    rw [value?_number hs hc, ← List.cons_append, ← hwrite, numeral?_write_append hn hrest,
      Option.map_some]
  | string text =>
    obtain ⟨body, hwrite, hbody⟩ := writeString_append text
    refine readBack_token (by rw [tokens, hwrite]) (by decide) fun steps s rest hs _ => ?_
    rw [value?, hs]
    simp [hbody]
  | @array items hitems ih => exact readBack_array ih fun v hv => tokens_head (hitems v hv)
  | @object members hmembers ih => exact readBack_object ih

/-- Every layout of a well-formed value is read as that value. -/
theorem read?_of_laid {v : Json} (hv : v.WellFormed) {text : String}
    (h : Laid v.tokens text.toList) : read? text = some v := by
  have hsteps : v.tokens.length ≤ 2 * text.toList.length + 2 := by
    have hlen := h.length_le
    omega
  have hlaid : Laid (v.tokens ++ []) text.toList := by rwa [List.append_nil]
  obtain ⟨rest, hvalue, more⟩ := hv.readBack hsteps hlaid (by simp [Follows])
  rw [read?, hvalue]
  show (guard ((skipSpace rest).isEmpty = true) >>= fun _ => some v) = some v
  rw [skipSpace_of_laid_nil more]
  rfl

/-! ## What is written -/

/-- Items are laid out as they are written, if each of them is. -/
theorem laid_writeItems {items : List Json}
    (hitems : ∀ v ∈ items, ∀ {ts rest}, Laid ts rest → Laid (v.tokens ++ ts) (writeChars v ++ rest))
    {ts : List (List Char)} {rest : List Char} (h : Laid ts rest) :
    Laid (itemTokens items ++ ts) (writeItems items ++ rest) := by
  induction items with
  | nil => exact h.token ']' []
  | cons v items ih =>
    by_cases hlast : items = []
    · subst hlast
      rw [itemTokens, writeItems, List.append_assoc, List.append_assoc]
      exact hitems v List.mem_cons_self (h.token ']' [])
    · have hrest := ih fun w hw => hitems w (List.mem_cons_of_mem _ hw)
      rw [itemTokens_cons v hlast, writeItems, List.append_assoc, List.append_assoc]
      · exact hitems v List.mem_cons_self (hrest.token ',' [])
      · exact hlast

/-- Members are laid out as they are written, if each of their values is. -/
theorem laid_writeMembers {members : List (Option String × Json)}
    (hmembers : ∀ m ∈ members, ∀ {ts rest}, Laid ts rest →
      Laid (m.2.tokens ++ ts) (writeChars m.2 ++ rest))
    {ts : List (List Char)} {rest : List Char} (h : Laid ts rest) :
    Laid (memberTokens members ++ ts) (writeMembers members ++ rest) := by
  induction members with
  | nil => exact h.token '\x7d' []
  | cons m members ih =>
    obtain ⟨name, v⟩ := m
    have hv {ts : List (List Char)} {rest : List Char} (h : Laid ts rest) :
        Laid (v.tokens ++ ts) (writeChars v ++ rest) := hmembers (name, v) List.mem_cons_self h
    obtain ⟨body, hname, -⟩ := writeString_append name
    by_cases hlast : members = []
    · subst hlast
      rw [memberTokens, writeMembers, hname]
      simp only [List.cons_append, List.append_assoc, List.nil_append]
      exact ((hv (h.token '\x7d' [])).token ':' []).token '"' body
    · have hrest := ih fun n hn => hmembers n (List.mem_cons_of_mem _ hn)
      rw [memberTokens_cons name v hlast, writeMembers, hname]
      · simp only [List.cons_append, List.append_assoc]
        exact ((hv (hrest.token ',' [])).token ':' []).token '"' body
      · exact hlast

/-- A well-formed value is laid out as it is written. -/
theorem WellFormed.laid_append {v : Json} (h : v.WellFormed) :
    ∀ {ts rest}, Laid ts rest → Laid (v.tokens ++ ts) (writeChars v ++ rest) := by
  induction h with
  | null => exact fun h => h.token 'n' "ull".toList
  | bool b =>
    rcases b with - | -
    · exact fun h => h.token 'f' "alse".toList
    · exact fun h => h.token 't' "rue".toList
  | @number n hn =>
    obtain ⟨c, more, hwrite, -⟩ := write_head hn
    rw [tokens, writeChars, hwrite]
    exact fun h => h.token c more
  | string text =>
    obtain ⟨body, hwrite, -⟩ := writeString_append text
    rw [tokens, writeChars, hwrite]
    exact fun h => h.token '"' body
  | @array items _ ih =>
    rw [tokens, writeChars]
    exact fun h => (laid_writeItems ih h).token '[' []
  | @object members _ ih =>
    rw [tokens, writeChars]
    exact fun h => (laid_writeMembers ih h).token '\x7b' []

/-- What is written for a well-formed value is one of its layouts. -/
theorem laid_write {v : Json} (hv : v.WellFormed) : Laid v.tokens v.write.toList := by
  have hlaid : Laid (v.tokens ++ []) (writeChars v ++ []) := hv.laid_append (.nil nofun)
  rw [write, String.toList_ofList]
  rwa [List.append_nil, List.append_nil] at hlaid

/-- A well-formed value is read back from what is written for it. -/
theorem read?_write {v : Json} (hv : v.WellFormed) : read? v.write = some v :=
  read?_of_laid hv (laid_write hv)

end Ensemble.Json
