import CollectionSchema.Collection.Basic
import Mathlib.Data.List.Nodup

/-!
Lists of named entries, seen through lookup by name.

`named nameOf entries name` is the first entry of a name; the lookups of a
collection and of an object property are instances of it. The lemmas say what
appending, filtering and replacing entries does to lookup, so that lists that are
edited by name can be compared name by name.
-/

namespace CollectionSchema

variable {α : Type} {nameOf : α → String} {entries : List α} {name : String} {a : α}

/-- The first entry of a name. -/
def named (nameOf : α → String) (entries : List α) (name : String) : Option α :=
  entries.find? (nameOf · == name)

theorem Collection.property?_eq_named (c : Collection) (name : String) :
    c.property? name = named (·.name) c.properties name := rfl

theorem Collection.reference?_eq_named (c : Collection) (name : String) :
    c.reference? name = named (·.name) c.references name := rfl

@[simp]
theorem named_nil : named nameOf [] name = none := rfl

theorem named_cons (a : α) (entries : List α) (name : String) :
    named nameOf (a :: entries) name =
      if nameOf a = name then some a else named nameOf entries name := by
  by_cases h : nameOf a = name <;> simp [named, h]

/-! ### What is found -/

theorem mem_of_named (found : named nameOf entries name = some a) : a ∈ entries :=
  List.mem_of_find?_eq_some found

theorem nameOf_named (found : named nameOf entries name = some a) : nameOf a = name := by
  simpa using List.find?_some found

theorem named_eq_none_iff : named nameOf entries name = none ↔ name ∉ entries.map nameOf := by
  simp [named]

theorem named_isSome_iff : (named nameOf entries name).isSome ↔ name ∈ entries.map nameOf := by
  simp [named]

/-- Among entries with distinct names, every entry is found under its name. -/
theorem named_of_mem (distinct : (entries.map nameOf).Nodup) (mem : a ∈ entries) :
    named nameOf entries (nameOf a) = some a := by
  cases found : named nameOf entries (nameOf a) with
  | none => exact absurd (List.mem_map_of_mem mem) (named_eq_none_iff.mp found)
  | some b =>
      have same := List.inj_on_of_nodup_map distinct (mem_of_named found) mem (nameOf_named found)
      rw [same]

/-- Among entries with distinct names, the entries of a name are at most one. -/
theorem filter_nameOf (distinct : (entries.map nameOf).Nodup) (name : String) :
    entries.filter (nameOf · == name) = (named nameOf entries name).toList := by
  induction entries with
  | nil => rfl
  | cons a rest ih =>
      rw [List.map_cons, List.nodup_cons] at distinct
      rw [List.filter_cons, named_cons, ih distinct.2]
      by_cases same : nameOf a = name
      · have unnamed : named nameOf rest name = none :=
          named_eq_none_iff.mpr (same ▸ distinct.1)
        simp [same, unnamed]
      · simp [same]

/-- No entry is left over when the names are those of the entries. -/
theorem filter_unnamed_eq_nil {names : List String} (same : entries.map nameOf = names) :
    entries.filter (fun a => decide (nameOf a ∉ names)) = [] := by
  refine List.filter_eq_nil_iff.mpr fun a mem => ?_
  simp only [← same, decide_eq_true_eq, not_not]
  exact List.mem_map_of_mem mem

/-! ### Lists edited by name -/

theorem named_append (xs ys : List α) (name : String) :
    named nameOf (xs ++ ys) name = (named nameOf xs name).or (named nameOf ys name) := by
  simp [named, List.find?_append]

/-- A filter that only looks at names hides the names that fail it. -/
theorem named_filter_nameOf (p : String → Bool) (entries : List α) (name : String) :
    named nameOf (entries.filter fun a => p (nameOf a)) name =
      if p name then named nameOf entries name else none := by
  induction entries with
  | nil => simp
  | cons a entries ih =>
      by_cases same : nameOf a = name
      · by_cases h : p name <;> simp_all [named_cons]
      · by_cases h : p (nameOf a) <;> simp_all [named_cons]

end CollectionSchema
