/-!
Tables: values under names, each name at most once, in the order in which the names first came.

`Table.set` keeps names unique, and `Table.get?` after it says what a table is: the last value set
under a name is the one found.
-/

namespace CollectionSchema

/-- Values under names. -/
abbrev Table (α : Type) := List (String × α)

namespace Table

variable {α : Type}

/-- The value under a name. -/
def get? (t : Table α) (name : String) : Option α :=
  t.lookup name

/-- Sets the value under a name: in place when the name is there, at the end otherwise. -/
def set : Table α → String → α → Table α
  | [], name, value => [(name, value)]
  | (n, v) :: rest, name, value =>
    if n = name then (n, value) :: rest else (n, v) :: set rest name value

/-- Drops a name and its value. -/
def erase (t : Table α) (name : String) : Table α :=
  t.filter fun entry => entry.1 ≠ name

/-- The names in order. -/
def names (t : Table α) : List String :=
  t.map (·.1)

@[simp]
theorem get?_nil (name : String) : get? ([] : Table α) name = none := rfl

theorem get?_cons (n name : String) (v : α) (rest : Table α) :
    get? ((n, v) :: rest) name = if name = n then some v else get? rest name := by
  by_cases h : name = n
  · simp [get?, h]
  · simp [get?, List.lookup_cons, beq_eq_false_iff_ne.mpr h, h]

/-- A value that was set is found under its name and under no other. -/
theorem get?_set (t : Table α) (name other : String) (value : α) :
    (t.set name value).get? other = if other = name then some value else t.get? other := by
  induction t with
  | nil => simp [set, get?_cons]
  | cons entry rest ih =>
    obtain ⟨n, v⟩ := entry
    by_cases h : n = name
    · subst h
      by_cases ho : other = n <;> simp [set, get?_cons, ho]
    · by_cases ho : other = n
      · subst ho
        simp [set, h, get?_cons]
      · simp [set, h, get?_cons, ho, ih]

/-- A name that was erased is not found, and every other name is found as before. -/
theorem get?_erase (t : Table α) (name other : String) :
    (t.erase name).get? other = if other = name then none else t.get? other := by
  induction t with
  | nil => simp [erase]
  | cons entry rest ih =>
    obtain ⟨n, v⟩ := entry
    have hcons : erase ((n, v) :: rest) name =
        if n = name then erase rest name else (n, v) :: erase rest name := by
      by_cases h : n = name <;> simp [erase, h]
    rw [hcons]
    by_cases h : n = name
    · rw [if_pos h, ih, get?_cons, h]
      split <;> rfl
    · rw [if_neg h, get?_cons, get?_cons, ih]
      by_cases ho : other = n
      · simp [ho, h]
      · simp [ho]

/-! ### Names -/

theorem mem_names_iff (t : Table α) (name : String) :
    name ∈ t.names ↔ (t.get? name).isSome := by
  induction t with
  | nil => simp [names]
  | cons entry rest ih =>
    obtain ⟨n, v⟩ := entry
    rw [names] at ih ⊢
    rw [List.map_cons, List.mem_cons, ih, get?_cons]
    by_cases h : name = n <;> simp [h]

theorem nodup_names_set {t : Table α} (unique : t.names.Nodup) (name : String) (value : α) :
    (t.set name value).names.Nodup := by
  induction t with
  | nil => simp [set, names]
  | cons entry rest ih =>
    obtain ⟨n, v⟩ := entry
    obtain ⟨fresh, uniqueRest⟩ := List.nodup_cons.mp unique
    by_cases h : n = name
    · rw [set, if_pos h]
      exact List.nodup_cons.mpr ⟨fresh, uniqueRest⟩
    · rw [set, if_neg h]
      refine List.nodup_cons.mpr ⟨?_, ih uniqueRest⟩
      intro mem
      have found := (mem_names_iff (set rest name value) n).mp mem
      rw [get?_set, if_neg h] at found
      exact fresh ((mem_names_iff rest n).mpr found)

theorem nodup_names_erase {t : Table α} (unique : t.names.Nodup) (name : String) :
    (t.erase name).names.Nodup :=
  unique.sublist (List.filter_sublist.map _)

end Table

end CollectionSchema
