import CollectionSchema.Proofs.Names.Repeated

/-!
Uniqueness of names in a collection.

* `repeated_eq_nil_iff`: no name of a list comes again exactly when the list has
  no duplicates.
* `nameClashes_eq_nil_iff`: a collection is free of clashes exactly when its
  members, properties and references together, have distinct names and so have
  its vectors.
-/

namespace CollectionSchema

theorem repeated_eq_nil_iff {names : List String} : repeated names = [] ↔ names.Nodup := by
  rw [List.eq_nil_iff_forall_not_mem, List.nodup_iff_count_le_one]
  refine forall_congr' fun name => ?_
  rw [mem_repeated_iff]
  omega

namespace Collection

/-! ### Collections without clashes -/

theorem nameClashes_eq_nil_iff {c : Collection} :
    c.nameClashes = [] ↔ c.memberNames.Nodup ∧ c.vectorNames.Nodup := by
  simp [nameClashes, repeated_eq_nil_iff]

theorem nameClashes_eq_nil {c : Collection} (properties : (c.properties.map (·.name)).Nodup)
    (references : (c.references.map (·.name)).Nodup)
    (disjoint : (c.properties.map (·.name)).Disjoint (c.references.map (·.name)))
    (vectors : (c.vectors.map (·.name)).Nodup) : c.nameClashes = [] :=
  nameClashes_eq_nil_iff.mpr ⟨properties.append references disjoint, vectors⟩

section Families

variable {c : Collection} (unique : c.nameClashes = [])
include unique

theorem nodup_properties : (c.properties.map (·.name)).Nodup :=
  (List.nodup_append.mp (nameClashes_eq_nil_iff.mp unique).1).1

theorem nodup_references : (c.references.map (·.name)).Nodup :=
  (List.nodup_append.mp (nameClashes_eq_nil_iff.mp unique).1).2.1

theorem nodup_vectors : (c.vectors.map (·.name)).Nodup :=
  (nameClashes_eq_nil_iff.mp unique).2

/-- No property and reference share a name. -/
theorem disjoint_names : (c.properties.map (·.name)).Disjoint (c.references.map (·.name)) :=
  List.disjoint_of_nodup_append (nameClashes_eq_nil_iff.mp unique).1

end Families

end Collection

end CollectionSchema
