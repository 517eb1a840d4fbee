import CollectionSchema.Proofs.Migration.Families

/-!
What a safe plan keeps of the stored data.

A plan compares the properties of the top level and never looks inside them. A
safe plan therefore keeps every property of the top level, with its primary kind,
and says nothing about nested properties.

* `survival_of_safe`: after a safe plan every property survives, at any depth,
  exactly when the nested properties of each top-level property do; and all safe
  plans keep everything exactly when there are no nested properties.
* `not_survives_of_safe`: a safe plan that drops a nested property.
-/

namespace CollectionSchema

/-! ### Properties at paths -/

/-- The property that a path of names leads to, through nested properties. -/
def propertyAt? (ps : List Property) : List String → Option Property
  | [] => none
  | [name] => named (·.name) ps name
  | name :: inner :: rest =>
    (named (·.name) ps name).bind fun p => propertyAt? p.nested (inner :: rest)

/-- Every property of `ps`, at whatever depth, is a property of `qs` at the same
path and with the same primary kind. -/
def Survives (ps qs : List Property) : Prop :=
  ∀ path p, propertyAt? ps path = some p →
    ∃ q, propertyAt? qs path = some q ∧ q.kind? = p.kind?

/-- Names are unique at every level. -/
inductive UniqueNames : List Property → Prop
  | intro {ps : List Property} : (ps.map (·.name)).Nodup →
      (∀ p ∈ ps, UniqueNames p.nested) → UniqueNames ps

namespace UniqueNames

variable {ps : List Property}

theorem nodup (unique : UniqueNames ps) : (ps.map (·.name)).Nodup := by
  cases unique with
  | intro distinct _ => exact distinct

theorem nested (unique : UniqueNames ps) {p : Property} (mem : p ∈ ps) :
    UniqueNames p.nested := by
  cases unique with
  | intro _ inner => exact inner p mem

theorem nil : UniqueNames [] :=
  .intro List.nodup_nil fun _ mem => absurd mem List.not_mem_nil

end UniqueNames

/-- Names are unique in every scope of a collection, at every level. -/
structure Collection.WellNamed (c : Collection) : Prop where
  unique : c.nameClashes = []
  levels : UniqueNames c.properties

@[simp]
theorem propertyAt?_nil (path : List String) : propertyAt? [] path = none := by
  match path with
  | [] => rfl
  | [_] => rfl
  | _ :: _ :: _ => rfl

theorem propertyAt?_cons {ps : List Property} {name : String} {path : List String} {p : Property}
    (found : named (·.name) ps name = some p) (nonempty : path ≠ []) :
    propertyAt? ps (name :: path) = propertyAt? p.nested path := by
  cases path with
  | nil => exact absurd rfl nonempty
  | cons inner rest => rw [propertyAt?, found, Option.bind_some]

theorem ne_nil_of_propertyAt? {ps : List Property} {path : List String} {p : Property}
    (found : propertyAt? ps path = some p) : path ≠ [] := by
  rintro rfl
  cases found

namespace Migration

variable {current target : Collection}

/-! ### The top level -/

/-- Where the top level is kept, everything survives just when what is nested in
each property does. -/
theorem survives_iff_nested {ps qs : List Property} (distinctPs : (ps.map (·.name)).Nodup)
    (distinctQs : (qs.map (·.name)).Nodup)
    (top : ∀ p ∈ ps, ∃ q, named (·.name) qs p.name = some q ∧ q.kind? = p.kind?) :
    Survives ps qs ↔
      ∀ p ∈ ps, ∀ q ∈ qs, q.name = p.name → Survives p.nested q.nested := by
  constructor
  · intro survives p memP q memQ same path r found
    have nonempty := ne_nil_of_propertyAt? found
    have lookP := named_of_mem distinctPs memP
    have lookQ : named (·.name) qs p.name = some q := same ▸ named_of_mem distinctQs memQ
    obtain ⟨r', found', kinds⟩ :=
      survives (p.name :: path) r ((propertyAt?_cons lookP nonempty).trans found)
    exact ⟨r', (propertyAt?_cons lookQ nonempty).symm.trans found', kinds⟩
  · intro inner path r found
    match path with
    | [] => cases found
    | [name] =>
        obtain rfl : r.name = name := nameOf_named found
        exact top r (mem_of_named found)
    | name :: next :: rest =>
        obtain ⟨p, look, deeper⟩ := Option.bind_eq_some_iff.mp found
        obtain rfl : p.name = name := nameOf_named look
        obtain ⟨q, lookQ, -⟩ := top p (mem_of_named look)
        obtain ⟨r', found', kinds⟩ := inner p (mem_of_named look) q (mem_of_named lookQ)
          (nameOf_named lookQ) (next :: rest) r deeper
        exact ⟨r', (propertyAt?_cons lookQ (List.cons_ne_nil _ _)).trans found', kinds⟩

/-! ### Dropping everything nested -/

/-- A collection without its nested properties. -/
def flatten (c : Collection) : Collection :=
  { c with properties := c.properties.map fun p => { p with nested := [] } }

theorem flatten_wellNamed (wellNamed : current.WellNamed) : (flatten current).WellNamed where
  unique := by
    have names : (flatten current).memberNames = current.memberNames := by
      simp [flatten, Collection.memberNames, Function.comp_def]
    rw [Collection.nameClashes_eq_nil_iff, names]
    exact Collection.nameClashes_eq_nil_iff.mp wellNamed.unique
  levels := by
    refine .intro ?_ fun p mem => ?_
    · simpa [flatten, Function.comp_def] using wellNamed.levels.nodup
    · obtain ⟨_, -, rfl⟩ := List.mem_map.mp mem
      exact .nil

/-- Dropping everything nested is a safe plan. -/
theorem isSafe_flatten (unique : current.nameClashes = []) :
    (Plan.toReach (some current) (flatten current)).isSafe := by
  refine isSafe_toReach_iff.mpr ⟨?_, ?_, ?_, ?_, rfl⟩
  · refine unmatched_eq_nil_iff.mpr fun p mem => ?_
    simpa [flatten, Function.comp_def] using List.mem_map_of_mem mem
  · exact unmatched_eq_nil_iff.mpr fun r mem => List.mem_map_of_mem mem
  · exact unmatched_eq_nil_iff.mpr fun v mem => List.mem_map_of_mem mem
  · rintro ⟨p, q⟩ mem
    obtain ⟨memQ, found⟩ := mem_paired_iff.mp mem
    obtain ⟨q', mem', rfl⟩ := List.mem_map.mp memQ
    have same := named_of_mem (Collection.nodup_properties unique) mem'
    obtain rfl := Option.some.inj (same.symm.trans found)
    rfl

/-- **How far a safe plan goes.** It keeps every property of the top level with its
primary kind; everything survives exactly when, besides, what is nested in each
property does, which no plan looks at. So all safe plans from a schema keep
everything exactly when the schema has no nested properties. -/
theorem survival_of_safe (wellNamed : current.WellNamed) :
    (∀ target : Collection, target.WellNamed → (Plan.toReach (some current) target).isSafe →
      (∀ p ∈ current.properties, ∃ q ∈ target.properties, q.name = p.name ∧ q.kind? = p.kind?) ∧
      (Survives current.properties target.properties ↔
        ∀ p ∈ current.properties, ∀ q ∈ target.properties, q.name = p.name →
          Survives p.nested q.nested)) ∧
    ((∀ target : Collection, target.WellNamed → (Plan.toReach (some current) target).isSafe →
      Survives current.properties target.properties) ↔
        ∀ p ∈ current.properties, p.nested = []) := by
  have top : ∀ {target : Collection}, (Plan.toReach (some current) target).isSafe →
      ∀ p ∈ current.properties,
        ∃ q, named (·.name) target.properties p.name = some q ∧ q.kind? = p.kind? :=
    fun safe p mem => named_of_safe wellNamed.unique safe mem
  refine ⟨fun target targetNamed safe => ⟨fun p mem => ?_, ?_⟩, ?_, ?_⟩
  · obtain ⟨q, found, kinds⟩ := top safe p mem
    exact ⟨q, mem_of_named found, nameOf_named found, kinds⟩
  · exact survives_iff_nested wellNamed.levels.nodup targetNamed.levels.nodup (top safe)
  · -- Dropping everything nested would lose the first nested property.
    intro always p mem
    have survives := always _ (flatten_wellNamed wellNamed) (isSafe_flatten wellNamed.unique)
    rw [List.eq_nil_iff_forall_not_mem]
    intro r memR
    have found : propertyAt? current.properties [p.name, r.name] = some r :=
      (propertyAt?_cons (named_of_mem wellNamed.levels.nodup mem) (List.cons_ne_nil _ _)).trans
        (named_of_mem (wellNamed.levels.nested mem).nodup memR)
    obtain ⟨q, found', -⟩ := survives _ r found
    obtain ⟨p', look, inner⟩ := Option.bind_eq_some_iff.mp found'
    obtain ⟨_, -, rfl⟩ := List.mem_map.mp (mem_of_named look)
    cases inner
  · intro flat target targetNamed safe
    refine (survives_iff_nested wellNamed.levels.nodup targetNamed.levels.nodup (top safe)).mpr ?_
    intro p mem q _ _ path r found
    rw [flat p mem, propertyAt?_nil] at found
    cases found

/-! ### An address that loses its city -/

def places : Collection where
  name := "Place"
  properties := [{ name := "address", kinds := [.object], nested := [.ofKind "city" .text] }]

theorem places_wellNamed : places.WellNamed where
  unique := by decide
  levels := by
    have city : UniqueNames [.ofKind "city" .text] :=
      .intro (by decide) fun p mem => by rw [List.mem_singleton.mp mem]; exact .nil
    exact .intro (by decide) fun p mem => by rw [List.mem_singleton.mp mem]; exact city

theorem survival_of_places :
    places.WellNamed ∧
      ¬ ∀ target : Collection, target.WellNamed → (Plan.toReach (some places) target).isSafe →
        Survives places.properties target.properties := by
  refine ⟨places_wellNamed, fun always => ?_⟩
  have flat := (survival_of_safe places_wellNamed).2.mp always
  exact absurd (flat _ (List.mem_singleton.mpr rfl)) (List.cons_ne_nil _ _)

/-- A safe plan does not keep everything: the plan that drops the city of an address
is even empty. -/
theorem not_survives_of_safe :
    ¬ ∀ current target : Collection, current.WellNamed → target.WellNamed →
      (Plan.toReach (some current) target).isSafe →
        Survives current.properties target.properties := by
  intro always
  have survives := always places (flatten places) places_wellNamed
    (flatten_wellNamed places_wellNamed) (by decide)
  obtain ⟨_, found, -⟩ := survives ["address", "city"] (.ofKind "city" .text) rfl
  cases found

end Migration

end CollectionSchema
