import CollectionSchema.Conformance.Check
import CollectionSchema.Proofs.Conformance.Pairing

/-!
Conformance where every name of the model is among those of the schema.

Then letter case plays no part: `checkProperties_eq`, `checkVectors_eq` and
`checkReferences_eq` say what each family of findings comes down to. Fields are
checked against the property of exactly their name, no field is without a
partner, and what the schema has beyond the model is reported in its order.
-/

namespace CollectionSchema

/-! ### Reports without findings -/

namespace Report

theorem ext {a b : Report} (errors : a.errors = b.errors) (warnings : a.warnings = b.warnings) :
    a = b := by
  cases a; cases b; simp_all

@[simp]
theorem empty_append (r : Report) : ({} : Report) ++ r = r := rfl

@[simp]
theorem append_empty (r : Report) : r ++ ({} : Report) = r :=
  ext (List.append_nil _) (List.append_nil _)

theorem join_eq_empty {reports : List Report} (clean : ∀ r ∈ reports, r = {}) :
    join reports = {} := by
  refine ext (List.flatMap_eq_nil_iff.mpr fun r mem => ?_)
    (List.flatMap_eq_nil_iff.mpr fun r mem => ?_)
  · rw [clean r mem]
  · rw [clean r mem]

end Report

namespace Conformance

variable {n : Nat} {types : Catalog n} {entered : List String} {parent : String}
  {fields : List (Field n)} {ps : List Property} {m : Model n} {c : Collection}

/-! ### One level of properties -/

/-- Every field is checked against the property of its name, and the properties
of other names are missing. -/
theorem checkProperties_eq (distinctFields : (fields.map Field.propertyName).Nodup)
    (distinct : (ps.map (·.name)).Nodup)
    (subset : ∀ f ∈ fields, f.propertyName ∈ ps.map (·.name)) :
    checkProperties types entered parent fields ps =
      Report.join (fields.map fun f =>
          checkField types entered (pathTo parent f.propertyName) f
            (named (·.name) ps f.propertyName)) ++
        { warnings :=
            (ps.filter fun p => decide (p.name ∉ fields.map Field.propertyName)).map
              fun p => missingField (pathTo parent p.name) p.name } := by
  have among : ∀ name ∈ fields.map Field.propertyName, name ∈ ps.map (·.name) := by
    intro name wanted
    obtain ⟨f, mem, rfl⟩ := List.mem_map.mp wanted
    exact subset f mem
  rw [checkProperties]
  simp only [Pairing.ofNames_of_subset distinctFields distinct among, List.map_map,
    ← List.map_prod_left_eq_zip]
  rfl

/-- What a field is reported for depends on the kind of its property and, for an
object kind, on the nested properties. -/
theorem checkField_congr {path : String} {f : Field n} {p q : Property}
    (kinds : q.kind? = p.kind?)
    (nested : ∀ kind, p.kind? = some kind → kind.isObject → q.nested = p.nested) :
    checkField types entered path f (some q) = checkField types entered path f (some p) := by
  rw [checkField, checkField]
  simp only [kinds]
  cases f.kind? with
  | none => rfl
  | some actual =>
      cases primary : p.kind? with
      | none => rfl
      | some expected =>
          by_cases same : expected = actual
          · subst same
            cases object : expected.isObject with
            | true => simp only [nested expected primary object]
            | false => simp [object]
          · simp [same]

/-! ### Vectors and references -/

theorem unpaired_eq_nil {α : Type} {nameOf : α → String} {names : List String}
    {entries : List α} (subset : ∀ name ∈ names, name ∈ entries.map nameOf)
    {unclaimed : List α} :
    unpaired names { partners := names.map (named nameOf entries), unclaimed } = [] := by
  rw [unpaired, List.map_eq_nil_iff, List.filter_eq_nil_iff]
  rw [← List.map_prod_left_eq_zip]
  intro pair mem
  obtain ⟨name, wanted, rfl⟩ := List.mem_map.mp mem
  simp [Option.isSome_iff_ne_none.mp (named_isSome_iff.mpr (subset name wanted))]

theorem checkVectors_eq (distinctNames : (vectorNames m).Nodup)
    (distinct : (c.vectors.map (·.name)).Nodup)
    (subset : ∀ name ∈ vectorNames m, name ∈ c.vectors.map (·.name)) :
    checkVectors m c = {} := by
  rw [checkVectors, Pairing.ofNames_of_subset distinctNames distinct subset,
    unpaired_eq_nil subset, List.map_nil]

theorem checkReferences_eq (distinctNames : (referenceNames m).Nodup)
    (distinct : (c.references.map (·.name)).Nodup)
    (subset : ∀ name ∈ referenceNames m, name ∈ c.references.map (·.name)) :
    checkReferences m c =
      { warnings :=
          (c.references.filter fun r => decide (r.name ∉ referenceNames m)).map
            fun r => missingReference r.name } := by
  rw [checkReferences, Pairing.ofNames_of_subset distinctNames distinct subset,
    unpaired_eq_nil subset, List.map_nil, List.nil_append]

end Conformance

end CollectionSchema
