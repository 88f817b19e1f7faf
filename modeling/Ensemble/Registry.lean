/-!
# Registries

A registry maps finitely many names to values.  It lists its entries in the order of their names,
each name once, and this is part of the type; so a registry is determined by what can be looked up
in it (`Registry.ext_get?`), and operations on different names commute.

The view of a registry is `Registry.get?`: `get?_insert`, `get?_erase` and `get?_modify` say what
each operation does to it.
-/

namespace Ensemble

/-- A finite map from names to values, with its entries in the order of their names. -/
structure Registry (α : Type) where
  /-- The entries in the order of their names. -/
  entries : List (String × α)
  sorted : entries.Pairwise fun a b => a.1 < b.1

namespace Registry

variable {α : Type}

/-! ## Operations -/

/-- The registry without entries. -/
def empty : Registry α := ⟨[], .nil⟩

instance : Inhabited (Registry α) := ⟨empty⟩

/-- The value that a list of entries holds under a name. -/
def lookup (name : String) : List (String × α) → Option α
  | [] => none
  | (other, value) :: rest => if name = other then some value else lookup name rest

/-- The value of a name. -/
def get? (r : Registry α) (name : String) : Option α :=
  lookup name r.entries

/-- Whether a name has a value. -/
def contains (r : Registry α) (name : String) : Bool :=
  (r.get? name).isSome

/-- The number of names with a value. -/
def size (r : Registry α) : Nat :=
  r.entries.length

/-- The values in the order of their names. -/
def values (r : Registry α) : List α :=
  r.entries.map (·.2)

/-- Puts an entry in its place in a list in name order, over an entry of the same name. -/
def place (name : String) (value : α) : List (String × α) → List (String × α)
  | [] => [(name, value)]
  | (other, old) :: rest =>
    if name < other then (name, value) :: (other, old) :: rest
    else if name = other then (name, value) :: rest
    else (other, old) :: place name value rest

/-- An entry of the list with one more entry is that entry or was in the list. -/
theorem mem_place {name : String} {value : α} {e : String × α} {l : List (String × α)}
    (h : e ∈ place name value l) : e = (name, value) ∨ e ∈ l := by
  induction l with
  | nil => exact .inl (List.mem_singleton.1 h)
  | cons head rest ih =>
    obtain ⟨other, old⟩ := head
    simp only [place] at h
    split at h
    · simpa using h
    · split at h
      · rcases List.mem_cons.1 h with h | h
        · exact .inl h
        · exact .inr (List.mem_cons_of_mem _ h)
      · rcases List.mem_cons.1 h with h | h
        · exact .inr (h ▸ List.mem_cons_self)
        · exact (ih h).imp id (List.mem_cons_of_mem _)

/-- Placing an entry keeps the order of names. -/
theorem pairwise_place {name : String} {value : α} {l : List (String × α)}
    (h : l.Pairwise fun a b => a.1 < b.1) :
    (place name value l).Pairwise fun a b => a.1 < b.1 := by
  induction l with
  | nil => exact List.pairwise_singleton _ _
  | cons head rest ih =>
    obtain ⟨other, old⟩ := head
    obtain ⟨below, tail⟩ := List.pairwise_cons.1 h
    simp only [place]
    split
    next lt =>
      refine List.pairwise_cons.2 ⟨fun e he => ?_, h⟩
      rcases List.mem_cons.1 he with he | he
      · exact he ▸ lt
      · exact String.lt_trans lt (below e he)
    next notLt =>
      split
      next eq => exact List.pairwise_cons.2 ⟨fun e he => eq ▸ below e he, tail⟩
      -- The new name is neither below the head nor equal to it, hence above.
      next ne =>
        refine List.pairwise_cons.2 ⟨fun e he => ?_, ih tail⟩
        rcases mem_place he with he | he
        · subst he
          rcases Std.Trichotomous.rel_or_eq_or_rel_swap (r := fun a b : String => a < b)
            (a := name) (b := other) with lt | eq | gt
          · exact absurd lt notLt
          · exact absurd eq ne
          · exact gt
        · exact below e he

/-- Gives a name a value, in place of the one it had. -/
def insert (r : Registry α) (name : String) (value : α) : Registry α :=
  ⟨place name value r.entries, pairwise_place r.sorted⟩

/-- Takes a name out of a registry. -/
def erase (r : Registry α) (name : String) : Registry α :=
  ⟨r.entries.filter fun e => e.1 != name, r.sorted.filter _⟩

/-- Changes the value of a name, if it has one. -/
def modify (r : Registry α) (name : String) (f : α → α) : Registry α :=
  match r.get? name with
  | some value => r.insert name (f value)
  | none => r

/-! ## What the operations do to look-ups -/

/-- A new registry holds nothing. -/
@[simp] theorem get?_empty (name : String) : (empty : Registry α).get? name = none := rfl

private theorem lookup_place (name other : String) (value : α) (l : List (String × α)) :
    lookup other (place name value l) = if other = name then some value else lookup other l := by
  induction l with
  | nil => simp [place, lookup]
  | cons head rest ih =>
    obtain ⟨key, old⟩ := head
    simp only [place]
    split
    next => rfl
    next =>
      split
      next eq =>
        subst eq
        simp only [lookup]
        split <;> rfl
      next ne =>
        simp only [lookup, ih]
        by_cases h : other = key
        · subst h
          simp [Ne.symm ne]
        · simp [h]

/-- Giving a name a value changes the value of that name only. -/
@[simp] theorem get?_insert (r : Registry α) (name other : String) (value : α) :
    (r.insert name value).get? other = if other = name then some value else r.get? other :=
  lookup_place name other value r.entries

/-- Taking a name out changes the value of that name only. -/
@[simp] theorem get?_erase (r : Registry α) (name other : String) :
    (r.erase name).get? other = if other = name then none else r.get? other := by
  obtain ⟨l, sorted⟩ := r
  simp only [get?, erase]
  -- The order plays no part in what is found.
  clear sorted
  induction l with
  | nil => simp [lookup]
  | cons head rest ih =>
    obtain ⟨key, old⟩ := head
    by_cases hk : key = name
    · subst hk
      by_cases ho : other = key
      · simpa [ho] using ih
      · simpa [lookup, ho] using ih
    · by_cases ho : other = key
      · subst ho
        simp [lookup, hk]
      · simpa [lookup, hk, ho] using ih

/-- Changing the value of a name changes that name only. -/
@[simp] theorem get?_modify (r : Registry α) (name other : String) (f : α → α) :
    (r.modify name f).get? other = if other = name then (r.get? name).map f else r.get? other := by
  unfold modify
  split
  next value h => simp [h]
  next h =>
    split
    next eq => simp [eq, h]
    next => rfl

/-! ## Look-ups determine a registry -/

private theorem lookup_eq_none_of_lt {name : String} {l : List (String × α)}
    (h : ∀ e ∈ l, name < e.1) : lookup name l = none := by
  induction l with
  | nil => rfl
  | cons head rest ih =>
    obtain ⟨other, value⟩ := head
    have ne : name ≠ other := fun eq =>
      String.lt_irrefl other (eq ▸ h (other, value) List.mem_cons_self)
    simpa [lookup, ne] using ih fun e he => h e (List.mem_cons_of_mem _ he)

private theorem lookup_eq_some_iff {name : String} {value : α} {l : List (String × α)}
    (h : l.Pairwise fun a b => a.1 < b.1) :
    lookup name l = some value ↔ (name, value) ∈ l := by
  induction l with
  | nil => simp [lookup]
  | cons head rest ih =>
    obtain ⟨other, old⟩ := head
    obtain ⟨below, sorted⟩ := List.pairwise_cons.1 h
    simp only [lookup, List.mem_cons, Prod.mk.injEq]
    split
    next same =>
      subst same
      have elsewhere : (name, value) ∉ rest := fun mem =>
        String.lt_irrefl name (below (name, value) mem)
      simp [elsewhere, eq_comm]
    next other => simp [ih sorted, other]

/-- The entries of a registry are its names with their values. -/
theorem mem_entries_iff {r : Registry α} {name : String} {value : α} :
    (name, value) ∈ r.entries ↔ r.get? name = some value :=
  (lookup_eq_some_iff r.sorted).symm

private theorem eq_of_lookup_eq {l m : List (String × α)}
    (hl : l.Pairwise fun a b => a.1 < b.1) (hm : m.Pairwise fun a b => a.1 < b.1)
    (h : ∀ name, lookup name l = lookup name m) : l = m := by
  induction l generalizing m with
  | nil =>
    cases m with
    | nil => rfl
    | cons head rest => simpa [lookup] using h head.1
  | cons head rest ih =>
    obtain ⟨key, value⟩ := head
    cases m with
    | nil => simpa [lookup] using h key
    | cons head' rest' =>
      obtain ⟨key', value'⟩ := head'
      obtain ⟨below, sorted⟩ := List.pairwise_cons.1 hl
      obtain ⟨below', sorted'⟩ := List.pairwise_cons.1 hm
      -- Were the first names different, the lesser one would be found on its own side only.
      have keys : key = key' := by
        rcases Std.Trichotomous.rel_or_eq_or_rel_swap (r := fun a b : String => a < b)
          (a := key) (b := key') with lt | eq | gt
        · have none_left : lookup key ((key', value') :: rest') = none :=
            lookup_eq_none_of_lt fun e he => by
              rcases List.mem_cons.1 he with he | he
              · exact he ▸ lt
              · exact String.lt_trans lt (below' e he)
          have := h key
          rw [none_left] at this
          simp [lookup] at this
        · exact eq
        · have none_right : lookup key' ((key, value) :: rest) = none :=
            lookup_eq_none_of_lt fun e he => by
              rcases List.mem_cons.1 he with he | he
              · exact he ▸ gt
              · exact String.lt_trans gt (below e he)
          have := h key'
          rw [none_right] at this
          simp [lookup] at this
      subst keys
      have values : value = value' := by simpa [lookup] using h key
      subst values
      have rests : rest = rest' := by
        refine ih sorted sorted' fun name => ?_
        by_cases eq : name = key
        · subst eq
          rw [lookup_eq_none_of_lt below, lookup_eq_none_of_lt below']
        · simpa [lookup, eq] using h name
      rw [rests]

/-- Two registries in which every name has the same value are equal. -/
theorem ext_get? {r s : Registry α} (h : ∀ name, r.get? name = s.get? name) : r = s := by
  obtain ⟨l, hl⟩ := r
  obtain ⟨m, hm⟩ := s
  have : l = m := eq_of_lookup_eq hl hm h
  subst this
  rfl

end Registry

end Ensemble
