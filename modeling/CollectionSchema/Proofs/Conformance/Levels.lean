import CollectionSchema.Conformance.Check
import CollectionSchema.Proofs.Conformance.Pairing

/-!
Conformance where names are distinct up to letter case at every level.

The levels of a model are its property fields and those of the types that they nest,
directly or inside each other (`Nests`); the levels of a schema are the nested
properties. `checkProperties_of_distinct` says what the check of one level comes down
to: each field is checked against the property that is equal to it up to letter case.
-/

namespace CollectionSchema

variable {n : Nat} {types : Catalog n} {fields : List (Field n)} {ps : List Property}

/-! ### Levels -/

/-- `Nests types fields id`: one of the fields nests the type `id`, or nests a type
whose property fields do. -/
inductive Nests (types : Catalog n) (fields : List (Field n)) : Fin n → Prop where
  | direct {f : Field n} {id : Fin n} :
      f ∈ fields → f.valueType.nested? = some id → Nests types fields id
  | inner {f : Field n} {id inside : Fin n} :
      Nests types fields id → f ∈ (types id).model.propertyFields →
        f.valueType.nested? = some inside → Nests types fields inside

/-- What is nested in a type is nested in the fields that nest the type. -/
theorem Nests.trans {id inside : Fin n} (nests : Nests types fields id)
    (inner : Nests types (types id).model.propertyFields inside) : Nests types fields inside := by
  induction inner with
  | direct mem refers => exact .inner nests mem refers
  | inner _ mem refers ih => exact .inner ih mem refers

/-- The names of the fields, and of the property fields of every type that they nest,
are distinct up to letter case. -/
structure DistinctFields (types : Catalog n) (fields : List (Field n)) : Prop where
  names : DistinctIgnoringCase (fields.map Field.propertyName)
  nested : ∀ id, Nests types fields id →
    DistinctIgnoringCase ((types id).model.propertyFields.map Field.propertyName)

theorem DistinctFields.inside (distinct : DistinctFields types fields) {f : Field n} {id : Fin n}
    (mem : f ∈ fields) (refers : f.valueType.nested? = some id) :
    DistinctFields types (types id).model.propertyFields where
  names := distinct.nested id (.direct mem refers)
  nested := fun inside nests => distinct.nested inside (Nests.trans (.direct mem refers) nests)

/-- The names of the properties are distinct up to letter case, and so are those of
the properties nested in each, at every depth. -/
inductive DistinctProperties : List Property → Prop where
  | intro {ps : List Property} : DistinctIgnoringCase (ps.map (·.name)) →
      (∀ p ∈ ps, DistinctProperties p.nested) → DistinctProperties ps

namespace DistinctProperties

theorem names (distinct : DistinctProperties ps) : DistinctIgnoringCase (ps.map (·.name)) := by
  cases distinct with
  | intro names _ => exact names

theorem nested (distinct : DistinctProperties ps) {p : Property} (mem : p ∈ ps) :
    DistinctProperties p.nested := by
  cases distinct with
  | intro _ inner => exact inner p mem

theorem nil : DistinctProperties [] :=
  .intro List.nodup_nil fun _ mem => absurd mem List.not_mem_nil

theorem tail {p : Property} (distinct : DistinctProperties (p :: ps)) : DistinctProperties ps :=
  .intro (distinct.names.sublist (List.sublist_cons_self ..))
    fun _ mem => distinct.nested (List.mem_cons_of_mem _ mem)

theorem perm {qs : List Property} (distinct : DistinctProperties ps) (perm : ps.Perm qs) :
    DistinctProperties qs :=
  .intro (distinct.names.perm perm) fun _ mem => distinct.nested (perm.mem_iff.mpr mem)

end DistinctProperties

/-! ### The check of one level -/

namespace Conformance

variable {entered : List String} {parent : String}

/-- Every field is checked against the property that is equal to it up to letter
case, and the properties that are equal to no field are missing. -/
theorem checkProperties_of_distinct
    (distinctFields : DistinctIgnoringCase (fields.map Field.propertyName))
    (distinct : DistinctIgnoringCase (ps.map (·.name))) :
    checkProperties types entered parent fields ps =
      Report.join (fields.map fun f =>
          checkField types entered (pathTo parent f.propertyName) f
            (alike (·.name) ps f.propertyName)) ++
        { warnings :=
            (ps.filter fun p =>
              decide (Text.foldCase p.name ∉
                (fields.map Field.propertyName).map Text.foldCase)).map
              fun p => missingField (pathTo parent p.name) p.name } := by
  rw [checkProperties]
  simp only [Pairing.ofNames_of_distinct distinctFields distinct, List.map_map,
    ← List.map_prod_left_eq_zip]
  rfl

theorem errors_checkProperties
    (distinctFields : DistinctIgnoringCase (fields.map Field.propertyName))
    (distinct : DistinctIgnoringCase (ps.map (·.name))) :
    (checkProperties types entered parent fields ps).errors =
      fields.flatMap fun f =>
        (checkField types entered (pathTo parent f.propertyName) f
          (alike (·.name) ps f.propertyName)).errors := by
  rw [checkProperties_of_distinct distinctFields distinct, Report.errors_append,
    Report.errors_join, List.append_nil, List.flatMap_map]

end Conformance

end CollectionSchema
