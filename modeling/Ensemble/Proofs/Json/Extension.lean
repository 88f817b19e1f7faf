import Ensemble.Proofs.Json.Layout
import Ensemble.Json.Shape
import Mathlib.Data.List.Forall2

/-!
# Documents with further members

A later version may write members that this one does not know.  `Extends shape v w` says that the
document `w` is `v` with such members: with any names but those of the fields of a record, with any
values, and anywhere in any of the records that `v` consists of.  The `shape` of a document tells
which of its objects are records and what their fields are.

A reader recovers a value if it reads the value from every extension of its document
(`Recovers`).  The lemmas below carry this from the fields of a record to the record:
`fields?_of_extends` finds the fields in an extension, and there is one lemma for each way to read a
field.
-/

namespace Ensemble.Json

/-! ## Extensions -/

/-- Which objects of a document are records, and the names of their fields. -/
inductive Shape where
  /-- A value without records. -/
  | plain
  /-- A list of values of one shape. -/
  | list (item : Shape)
  /-- A record: the names of its fields, and the shape of each of them. -/
  | record (fields : List String) (inner : String → Shape)

/-- The members `ns` are `ms` with further ones, where `R` relates the values of a field. -/
inductive Enlarged (fields : List String) (R : String → Json → Json → Prop) :
    List (Option String × Json) → List (Option String × Json) → Prop
  | nil : Enlarged fields R [] []
  | keep {name : String} {v w : Json} {ms ns : List (Option String × Json)} (h : R name v w)
      (more : Enlarged fields R ms ns) :
      Enlarged fields R ((some name, v) :: ms) ((some name, w) :: ns)
  | insert {name : String} (w : Json) {ms ns : List (Option String × Json)} (h : name ∉ fields)
      (more : Enlarged fields R ms ns) : Enlarged fields R ms ((some name, w) :: ns)

/-- The document `w` is `v` with members that are not fields of the records they stand in. -/
def Extends : Shape → Json → Json → Prop
  | .plain, v, w => v = w
  | .list item, v, w => ∃ vs ws, v = .array vs ∧ w = .array ws ∧ List.Forall₂ (Extends item) vs ws
  | .record fields inner, v, w => ∃ ms ns, v = .object ms ∧ w = .object ns ∧
      Enlarged fields (fun name => Extends (inner name)) ms ns

/-- An object with a further member. -/
def withMember (name : String) (value : Json) : Json → Json
  | .object members => .object ((some name, value) :: members)
  | other => other

/-- A member that is no field may be added to an extension. -/
theorem Extends.withMember {fields : List String} {inner : String → Shape} {v w : Json}
    (h : Extends (.record fields inner) v w) {name : String} (hname : name ∉ fields)
    (value : Json) : Extends (.record fields inner) v (Json.withMember name value w) := by
  obtain ⟨ms, ns, rfl, rfl, hlarge⟩ := h
  exact ⟨ms, (some name, value) :: ns, rfl, rfl, .insert value hname hlarge⟩

/-- A member may be added to a well-formed object. -/
theorem WellFormed.withMember {v w : Json} (hv : v.WellFormed) (hw : w.WellFormed)
    (name : String) : (Json.withMember name v w).WellFormed := by
  cases hw with
  | object hmembers => exact .object (List.forall_mem_cons.mpr ⟨hv, hmembers⟩)
  | null => exact .null
  | bool b => exact .bool b
  | number hn => exact .number hn
  | string text => exact .string text
  | array hitems => exact .array hitems

/-! ## Finding fields -/

/-- Members of a field stand in an extension as they stood before. -/
theorem Enlarged.filter {fields : List String} {R : String → Json → Json → Prop}
    {ms ns : List (Option String × Json)} (h : Enlarged fields R ms ns) {name : String}
    (hname : name ∈ fields) :
    List.Forall₂ (fun m n => R name m.2 n.2) (ms.filter fun m => m.1 == some name)
      (ns.filter fun n => n.1 == some name) := by
  induction h with
  | nil => exact .nil
  | @keep other v w ms ns hR _ ih =>
    by_cases heq : other = name
    · subst heq
      rw [List.filter_cons_of_pos (by simp), List.filter_cons_of_pos (by simp)]
      exact .cons hR ih
    · rw [List.filter_cons_of_neg (by simpa using heq),
        List.filter_cons_of_neg (by simpa using heq)]
      exact ih
  -- An unknown key is none of the fields, so the filter drops it.
  | @insert other w ms ns hother _ ih =>
    rw [List.filter_cons_of_neg]
    · exact ih
    · rw [beq_iff_eq, Option.some.injEq]
      rintro rfl
      exact hother hname

/-- A field that stands once in a record is found in every extension of it. -/
theorem Enlarged.unique? {fields : List String} {R : String → Json → Json → Prop}
    {ms ns : List (Option String × Json)} (h : Enlarged fields R ms ns) {name : String}
    (hname : name ∈ fields) {value : Option Json} (hvalue : unique? name ms = some value) :
    ∃ found, Json.unique? name ns = some found ∧ Option.Rel (R name) value found := by
  have hfilter := h.filter hname
  rw [Json.unique?] at hvalue ⊢
  revert hvalue hfilter
  generalize (ms.filter fun m => m.1 == some name) = old
  generalize (ns.filter fun n => n.1 == some name) = new
  intro hvalue hfilter
  -- As many members bear the name after as before: none, one, or too many.
  rcases hfilter with - | ⟨hR, - | ⟨-, -⟩⟩
  · cases hvalue
    exact ⟨none, rfl, .none⟩
  · cases hvalue
    exact ⟨_, rfl, .some hR⟩
  · cases hvalue

/-- Every member of an extension has a name with a text. -/
theorem Enlarged.isSome {fields : List String} {R : String → Json → Json → Prop}
    {ms ns : List (Option String × Json)} (h : Enlarged fields R ms ns) :
    ∀ n ∈ ns, n.1.isSome = true := by
  induction h with
  | nil => nofun
  | keep _ _ ih => exact List.forall_mem_cons.mpr ⟨rfl, ih⟩
  | insert _ _ _ ih => exact List.forall_mem_cons.mpr ⟨rfl, ih⟩

/-- The members of a record that has values for some of its fields. -/
def present (slots : List (String × Option Json)) : List (String × Json) :=
  slots.filterMap fun slot => slot.2.map (slot.1, ·)

/-- A field with a value stands in the record. -/
theorem present_some (name : String) (v : Json) (slots : List (String × Option Json)) :
    present ((name, some v) :: slots) = (name, v) :: present slots := rfl

/-- A field without a value does not stand in the record. -/
theorem present_none (name : String) (slots : List (String × Option Json)) :
    present ((name, none) :: slots) = present slots := rfl

/-- A record without further fields has no further members. -/
theorem present_nil : present [] = [] := rfl

/-- A field that is written only if it holds something. -/
theorem present_map {α : Type} (name : String) (encode : α → Json) (x : Option α)
    (slots : List (String × Option Json)) :
    present ((name, x.map encode) :: slots) = optionalMember name encode x ++ present slots := by
  rcases x with - | x <;> rfl

/-- A record is well formed if the values of its fields are. -/
theorem wellFormed_present {slots : List (String × Option Json)}
    (h : ∀ slot ∈ slots, ∀ v ∈ slot.2, v.WellFormed) : (record (present slots)).WellFormed := by
  refine .object fun member hmember => ?_
  obtain ⟨⟨name, v⟩, hm, rfl⟩ := List.mem_map.mp hmember
  obtain ⟨slot, hslot, hv⟩ := List.mem_filterMap.mp hm
  obtain ⟨v, hvalue, hv⟩ := Option.map_eq_some_iff.mp hv
  cases hv
  exact h slot hslot v hvalue

/-- A record has no member for a name that none of its fields has. -/
theorem filter_present_of_not_mem {slots : List (String × Option Json)} {name : String}
    (hname : name ∉ slots.map Prod.fst) :
    ((present slots).map fun m => (some m.1, m.2)).filter (fun m => m.1 == some name) = [] := by
  rw [List.filter_eq_nil_iff]
  intro member hmember hfield
  obtain ⟨⟨other, v⟩, hm, rfl⟩ := List.mem_map.mp hmember
  obtain ⟨slot, hslot, hv⟩ := List.mem_filterMap.mp hm
  obtain ⟨v, -, hv⟩ := Option.map_eq_some_iff.mp hv
  cases hv
  obtain rfl := Option.some.inj (eq_of_beq hfield)
  exact hname (List.mem_map_of_mem hslot)

/-- A field stands at most once in a record if the names of the fields are distinct. -/
theorem unique?_present {slots : List (String × Option Json)}
    (hdistinct : (slots.map Prod.fst).Nodup) {slot : String × Option Json} (hslot : slot ∈ slots) :
    unique? slot.1 ((present slots).map fun m => (some m.1, m.2)) = some slot.2 := by
  have hfilter : ((present slots).map fun m => (some m.1, m.2)).filter
      (fun m => m.1 == some slot.1) = slot.2.toList.map (some slot.1, ·) := by
    induction slots with
    | nil => cases hslot
    | cons first slots ih =>
      obtain ⟨name, value⟩ := first
      obtain ⟨hname, hslots⟩ := List.nodup_cons.mp hdistinct
      rcases List.mem_cons.mp hslot with rfl | hmem
      · have hrest := filter_present_of_not_mem hname
        rcases value with - | value
        · exact hrest
        · rw [present_some, List.map_cons, List.filter_cons_of_pos (by simp)]
          exact congrArg _ hrest
      · -- The first slot is not the one that is looked for, as names are distinct.
        have hne : name ≠ slot.1 := by
          intro heq
          have hmap := List.mem_map_of_mem (f := Prod.fst) hmem
          exact hname (heq ▸ hmap)
        rcases value with - | value
        · rw [present_none]
          exact ih hslots hmem
        · rw [present_some, List.map_cons, List.filter_cons_of_neg (by simpa using hne)]
          exact ih hslots hmem
  rw [unique?, hfilter]
  rcases slot.2 with - | value <;> rfl

/-- The fields of a record are found in every extension of its document. -/
theorem fields?_of_extends {fields : List String} {inner : String → Shape}
    {slots : List (String × Option Json)} {w : Json}
    (h : Extends (.record fields inner) (record (present slots)) w)
    (hnames : slots.map Prod.fst = fields) (hdistinct : fields.Nodup) :
    ∃ found : String → Option Json, w.fields? fields = some (fields.map found) ∧
      ∀ slot ∈ slots, Option.Rel (Extends (inner slot.1)) slot.2 (found slot.1) := by
  subst hnames
  obtain ⟨ms, ns, hms, rfl, hlarge⟩ := h
  cases hms
  have hfound (slot : String × Option Json) (hslot : slot ∈ slots) :
      ∃ found, unique? slot.1 ns = some found ∧
        Option.Rel (Extends (inner slot.1)) slot.2 found :=
    hlarge.unique? (List.mem_map_of_mem hslot) (unique?_present hdistinct hslot)
  refine ⟨fun name => (unique? name ns).join, ?_, fun slot hslot => ?_⟩
  · have hall : ns.all (fun m => m.1.isSome) = true := List.all_eq_true.mpr hlarge.isSome
    rw [fields?, if_pos hall]
    have hsome : ∀ name ∈ slots.map Prod.fst,
        unique? name ns = some (unique? name ns).join := by
      intro name hname
      obtain ⟨slot, hslot, rfl⟩ := List.mem_map.mp hname
      obtain ⟨found, hfound, -⟩ := hfound slot hslot
      rw [hfound]
      rfl
    -- Every name is read on its own; that they are those of the slots matters no more.
    generalize slots.map Prod.fst = names at hsome
    induction names with
    | nil => rfl
    | cons name names ih =>
      obtain ⟨hname, hnames⟩ := List.forall_mem_cons.mp hsome
      rw [List.mapM_cons, ih hnames, hname]
      rfl
  · obtain ⟨found, hfound, hrel⟩ := hfound slot hslot
    dsimp only
    rw [hfound]
    exact hrel

/-! ## Reading fields -/

/-- A reader recovers a value from every extension of its document. -/
def Recovers {α : Type} (shape : Shape) (encode : α → Json) (read : Json → Option α) (x : α) :
    Prop :=
  ∀ w, Extends shape (encode x) w → read w = some x

section

variable {α : Type} {shape : Shape} {encode : α → Json} {read : Json → Option α}

/-- A plain value is recovered if it is read from its own document. -/
theorem recovers_plain {x : α} (h : read (encode x) = some x) : Recovers .plain encode read x := by
  rintro w rfl
  exact h

/-- A list is recovered if its items are. -/
theorem recovers_list {xs : List α} (h : ∀ x ∈ xs, Recovers shape encode read x) :
    Recovers (.list shape) (fun xs => .array (xs.map encode)) (list? read) xs := by
  rintro w ⟨vs, ws, hvs, rfl, hall⟩
  cases hvs
  rw [list?]
  induction xs generalizing ws with
  | nil =>
    cases hall
    rfl
  | cons x xs ih =>
    obtain ⟨hx, hxs⟩ := List.forall_mem_cons.mp h
    rcases hall with - | ⟨hw, hws⟩
    rw [List.mapM_cons, hx _ hw, ih hxs _ hws]
    rfl

/-- Reading goes on with what a field was read as. -/
theorem bind_eq {β : Type} {field : Option α} {x : α} (h : field = some x) {next : α → Option β}
    {result : Option β} (more : next x = result) : (field >>= next) = result := by
  rw [h]
  exact more

/-- A field that must be present is read back. -/
theorem required?_eq {x : α} (hx : Recovers shape encode read x) {field : Option Json}
    (h : Option.Rel (Extends shape) (some (encode x)) field) : required? read field = some x := by
  rcases h with ⟨hw⟩
  exact hx _ hw

/-- A field with a default is read back if it is written. -/
theorem orDefault?_eq {x : α} (hx : Recovers shape encode read x) (default : α)
    {field : Option Json} (h : Option.Rel (Extends shape) (some (encode x)) field) :
    orDefault? read default field = some x := by
  rcases h with ⟨hw⟩
  exact hx _ hw

/-- A field that is written only if it holds something is read back. -/
theorem optional?_eq {x : Option α} (hx : ∀ a ∈ x, Recovers shape encode read a)
    (hnull : read .null = none) {field : Option Json}
    (h : Option.Rel (Extends shape) (x.map encode) field) : optional? read field = some x := by
  rcases x with - | a
  · cases h
    rfl
  · rcases h with ⟨hw⟩
    have hread := hx a rfl _ hw
    rename_i w
    rw [optional?, nullable?]
    · rw [hread]
      rfl
    · -- A value that is there is not written as null, from which nothing is read.
      rintro rfl
      rw [hnull] at hread
      cases hread

/-- A field that is written as `null` if it holds nothing is read back. -/
theorem nullable_eq {x : Option α} (hx : ∀ a ∈ x, Recovers .plain encode read a)
    (hnull : read .null = none) {field : Option Json}
    (h : Option.Rel (Extends .plain) (some ((x.map encode).getD .null)) field) :
    optional? read field = some x := by
  rcases x with - | a
  · rcases h with ⟨rfl⟩
    rfl
  · exact optional?_eq hx hnull h

end

/-! ## Refusing fields -/

/-- A reader refuses a value if it reads nothing from any extension of its document. -/
def Refuses {α : Type} (shape : Shape) (encode : α → Json) (read : Json → Option α) (x : α) :
    Prop :=
  ∀ w, Extends shape (encode x) w → read w = none

section

variable {α : Type} {shape : Shape} {encode : α → Json} {read : Json → Option α}

/-- A plain value is refused if it is not read from its own document. -/
theorem refuses_plain {x : α} (h : read (encode x) = none) : Refuses .plain encode read x := by
  rintro w rfl
  exact h

/-- Nothing is read if a field is refused. -/
theorem bind_of_none {β : Type} {field : Option α} (h : field = none) (next : α → Option β) :
    (field >>= next) = none := by
  rw [h]
  rfl

/-- Nothing is read if nothing is read after a field. -/
theorem bind_eq_none {β : Type} {field : Option α} {next : α → Option β}
    (h : ∀ x, next x = none) : (field >>= next) = none := by
  rcases field with - | x
  · rfl
  · exact h x

/-- A field with a default is refused if what is written for it is. -/
theorem orDefault?_eq_none {x : α} (hx : Refuses shape encode read x) (default : α)
    {field : Option Json} (h : Option.Rel (Extends shape) (some (encode x)) field) :
    orDefault? read default field = none := by
  rcases h with ⟨hw⟩
  exact hx _ hw

/-- A field that holds something that is refused, and that is not written as `null`. -/
theorem optional?_eq_none {x : Option α} {a : α} (ha : a ∈ x) (hx : Refuses shape encode read a)
    (hnull : ¬ Extends shape (encode a) .null) {field : Option Json}
    (h : Option.Rel (Extends shape) (x.map encode) field) : optional? read field = none := by
  obtain rfl := Option.mem_def.1 ha
  rcases h with ⟨hw⟩
  rename_i w
  rw [optional?, nullable?]
  · rw [hx _ hw]
    rfl
  · rintro rfl
    exact hnull hw

end

/-- A record is not `null`, with whatever members. -/
theorem not_extends_null {fields : List String} {inner : String → Shape} (v : Json) :
    ¬ Extends (.record fields inner) v .null := by
  rintro ⟨_, _, -, null, -⟩
  cases null

/-! ## Plain values -/

/-- A text is recovered. -/
theorem recovers_str (s : String) : Recovers .plain str text? s :=
  recovers_plain rfl

/-- A truth value is recovered. -/
theorem recovers_bool (b : Bool) : Recovers .plain .bool bool? b :=
  recovers_plain rfl

/-- A natural number within the bound is recovered. -/
theorem recovers_nat {bound n : Nat} (h : n ≤ bound) : Recovers .plain nat (natural? bound) n := by
  apply recovers_plain
  rw [nat, natural?, Numeral.natural?_ofNat, Option.filter_some, if_pos (decide_eq_true h)]

/-- Texts in a list are recovered. -/
theorem recovers_strs (xs : List String) :
    Recovers (.list .plain) (fun xs => .array (xs.map str)) (list? text?) xs :=
  recovers_list fun x _ => recovers_str x

/-- One of several names is recovered if it is found among them. -/
theorem recovers_choice {α : Type} {names : List (String × α)} {name : α → String} {x : α}
    (h : names.lookup (name x) = some x) :
    Recovers .plain (fun x => str (name x)) (choice? names) x :=
  recovers_plain h

/-! ## Documents as their own extensions -/

/-- A plain value is an extension of itself. -/
@[simp] theorem extends_plain (v : Json) : Extends .plain v v := rfl

/-- A list is an extension of itself if the documents of its items are. -/
theorem extends_list {α : Type} {item : Shape} {encode : α → Json}
    (h : ∀ x, Extends item (encode x) (encode x)) (xs : List α) :
    Extends (.list item) (array (xs.map encode)) (array (xs.map encode)) := by
  refine ⟨_, _, rfl, rfl, ?_⟩
  induction xs with
  | nil => exact .nil
  | cons x xs ih => exact .cons (h x) ih

/-- A list of texts is an extension of itself. -/
@[simp] theorem extends_strs (xs : List String) :
    Extends (.list .plain) (array (xs.map str)) (array (xs.map str)) :=
  extends_list (fun s => extends_plain (str s)) xs

/-- A record is an extension of itself if the values of its fields are. -/
theorem extends_present {fields : List String} {inner : String → Shape}
    {slots : List (String × Option Json)}
    (h : ∀ slot ∈ slots, ∀ v ∈ slot.2, Extends (inner slot.1) v v) :
    Extends (.record fields inner) (record (present slots)) (record (present slots)) := by
  refine ⟨_, _, rfl, rfl, ?_⟩
  induction slots with
  | nil => exact .nil
  | cons slot slots ih =>
    obtain ⟨hslot, hslots⟩ := List.forall_mem_cons.mp h
    obtain ⟨name, - | v⟩ := slot
    · exact ih hslots
    · exact .keep (hslot v rfl) (ih hslots)

/-! ## Well-formed documents -/

/-- Absent values are well formed. -/
@[simp] theorem wellFormed_null : (Json.null).WellFormed := .null

/-- Truth values are well formed. -/
@[simp] theorem wellFormed_bool (b : Bool) : (Json.bool b).WellFormed := .bool b

/-- Texts are well formed. -/
@[simp] theorem wellFormed_str (s : String) : (str s).WellFormed := .string (some s)

/-- Natural numbers are well formed. -/
@[simp] theorem wellFormed_nat (n : Nat) : (nat n).WellFormed :=
  .number (Numeral.wellFormed_ofNat n)

/-- Floating-point numbers are well formed. -/
@[simp] theorem wellFormed_float (x : Binary64) : (float x).WellFormed := by
  rw [float]
  split
  · rename_i n hn
    obtain ⟨text, -, hread⟩ := Option.bind_eq_some_iff.mp hn
    exact .number (Numeral.read?_wellFormed hread)
  · exact .null

/-- A list is well formed if its items are. -/
theorem wellFormed_list {α : Type} {encode : α → Json} (h : ∀ x, (encode x).WellFormed)
    (xs : List α) : (array (xs.map encode)).WellFormed := by
  refine .array fun v hv => ?_
  obtain ⟨x, -, rfl⟩ := List.mem_map.mp hv
  exact h x

/-- A list of texts is well formed. -/
@[simp] theorem wellFormed_strs (xs : List String) : (array (xs.map str)).WellFormed :=
  wellFormed_list wellFormed_str xs

end Ensemble.Json
