import CollectionSchema.Proofs.Names.Lookup
import CollectionSchema.Text.Words

/-!
Lookup up to letter case.

`alike nameOf entries name` is the first entry whose name is equal up to the case of ASCII
letters. Among names that are distinct in more than that, it is the only such entry.
-/

namespace CollectionSchema

open Text

variable {α : Type} {nameOf : α → String} {entries : List α} {names : List String}
  {name : String} {a : α}

/-- No two of the names are equal up to the case of ASCII letters. -/
def DistinctIgnoringCase (names : List String) : Prop :=
  (names.map foldCase).Nodup

instance (names : List String) : Decidable (DistinctIgnoringCase names) := by
  unfold DistinctIgnoringCase; infer_instance

/-- The first entry of a name up to letter case. -/
def alike (nameOf : α → String) (entries : List α) (name : String) : Option α :=
  entries.find? fun a => sameIgnoringCase (nameOf a) name

theorem sameIgnoringCase_iff {a b : String} :
    sameIgnoringCase a b ↔ foldCase a = foldCase b :=
  beq_iff_eq

namespace DistinctIgnoringCase

theorem sublist {others : List String} (distinct : DistinctIgnoringCase names)
    (sub : others.Sublist names) : DistinctIgnoringCase others :=
  List.Nodup.sublist (sub.map foldCase) distinct

theorem nodup (distinct : DistinctIgnoringCase names) : names.Nodup :=
  distinct.of_map foldCase

theorem nodup_map (distinct : DistinctIgnoringCase (entries.map nameOf)) :
    (entries.map fun a => foldCase (nameOf a)).Nodup := by
  rw [DistinctIgnoringCase, List.map_map] at distinct
  exact distinct

/-- Among names that are distinct in more than letter case, equal up to it is equal. -/
theorem eq_of_same (distinct : DistinctIgnoringCase names) {other : String} (mem : name ∈ names)
    (memOther : other ∈ names) (same : foldCase name = foldCase other) : name = other :=
  List.inj_on_of_nodup_map distinct mem memOther same

theorem entry_eq_of_same (distinct : DistinctIgnoringCase (entries.map nameOf)) {b : α}
    (mem : a ∈ entries) (memB : b ∈ entries) (same : foldCase (nameOf a) = foldCase (nameOf b)) :
    a = b :=
  List.inj_on_of_nodup_map distinct.nodup_map mem memB same

/-- Names are as distinct as those that they are up to order and letter case. -/
theorem of_perm {β : Type} {others : List β} {nameOf' : β → String}
    (distinct : DistinctIgnoringCase (entries.map nameOf))
    (perm : (entries.map fun a => foldCase (nameOf a)).Perm
      (others.map fun b => foldCase (nameOf' b))) :
    DistinctIgnoringCase (others.map nameOf') := by
  rw [DistinctIgnoringCase, List.map_map]
  exact perm.nodup_iff.mp distinct.nodup_map

theorem perm {others : List α} (distinct : DistinctIgnoringCase (entries.map nameOf))
    (perm : entries.Perm others) : DistinctIgnoringCase (others.map nameOf) :=
  distinct.of_perm (perm.map _)

end DistinctIgnoringCase

theorem alike_cons (a : α) (entries : List α) (name : String) :
    alike nameOf (a :: entries) name =
      if sameIgnoringCase (nameOf a) name then some a else alike nameOf entries name := by
  by_cases same : sameIgnoringCase (nameOf a) name <;> simp [alike, same]

theorem alike_eq_none_iff :
    alike nameOf entries name = none ↔
      ∀ a ∈ entries, ¬ sameIgnoringCase (nameOf a) name := by
  simp [alike]

theorem alike_eq_some_iff (distinct : DistinctIgnoringCase (entries.map nameOf)) :
    alike nameOf entries name = some a ↔ a ∈ entries ∧ sameIgnoringCase (nameOf a) name := by
  refine ⟨fun found => ⟨List.mem_of_find?_eq_some found, by simpa using List.find?_some found⟩, ?_⟩
  rintro ⟨mem, same⟩
  cases found : alike nameOf entries name with
  | none => exact absurd same (alike_eq_none_iff.mp found a mem)
  | some b =>
      have sameB : sameIgnoringCase (nameOf b) name := by simpa using List.find?_some found
      have both := (sameIgnoringCase_iff.mp sameB).trans (sameIgnoringCase_iff.mp same).symm
      rw [distinct.entry_eq_of_same (List.mem_of_find?_eq_some found) mem both]

/-- Which entry is found does not depend on their order. -/
theorem alike_perm {others : List α} (distinct : DistinctIgnoringCase (entries.map nameOf))
    (perm : entries.Perm others) (name : String) :
    alike nameOf entries name = alike nameOf others name := by
  ext a
  rw [alike_eq_some_iff distinct, alike_eq_some_iff (distinct.perm perm), perm.mem_iff]

/-- An entry of exactly the name is the one found up to letter case. -/
theorem alike_of_named (distinct : DistinctIgnoringCase (entries.map nameOf))
    (found : named nameOf entries name = some a) : alike nameOf entries name = some a :=
  (alike_eq_some_iff distinct).mpr
    ⟨mem_of_named found, sameIgnoringCase_iff.mpr (by rw [nameOf_named found])⟩

end CollectionSchema
