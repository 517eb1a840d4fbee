import CollectionSchema.Proofs.Migration.Replay
import CollectionSchema.Proofs.Synthesis.Customization
import CollectionSchema.Proofs.Synthesis.Insertion

/-!
The plan for one more member.

* `changes_of_growsBy`: between a schema and the schema with one more member, the plan is to
  add that member, and the way back is to remove it.
* `changes_withField`: so it is between the schemas of a model and of the model with one more
  field, for what is synthesized for the field.
-/

namespace CollectionSchema

namespace ChangeSubject

/-- What a change does that makes a member. -/
def additionKind : ChangeSubject → ChangeKind
  | property _ => .addProperty
  | reference _ => .addReference
  | vector _ => .addVector

/-- What a change does that drops a member. -/
def removalKind : ChangeSubject → ChangeKind
  | property _ => .removeProperty
  | reference _ => .removeReference
  | vector _ => .removeVector

end ChangeSubject

namespace Migration

/-! ### A list with one more entry -/

section Lists

variable {α : Type} {nameOf : α → String}

theorem unmatched_eq_nil_of_subset {entries others : List α} (subset : entries ⊆ others) :
    unmatched nameOf others entries = [] := by
  refine unmatched_eq_nil_iff.mpr ?_
  intro a mem
  exact List.mem_map_of_mem (subset mem)

theorem unmatched_insert {before after : List α} {a : α}
    (distinct : ((before ++ a :: after).map nameOf).Nodup) :
    unmatched nameOf (before ++ after) (before ++ a :: after) = [a] := by
  have fresh : nameOf a ∉ (before ++ after).map nameOf := by
    rw [List.map_append, List.map_cons, List.nodup_middle, List.nodup_cons] at distinct
    rw [List.map_append]
    exact distinct.1
  have knownBefore : unmatched nameOf (before ++ after) before = [] :=
    unmatched_eq_nil_of_subset (List.subset_append_left before after)
  have knownAfter : unmatched nameOf (before ++ after) after = [] :=
    unmatched_eq_nil_of_subset (List.subset_append_right before after)
  have unknown : (named nameOf (before ++ after) (nameOf a)).isNone = true :=
    Option.isNone_iff_eq_none.mpr (named_eq_none_iff.mpr fresh)
  rw [unmatched] at knownBefore knownAfter ⊢
  rw [List.filter_append, knownBefore, List.filter_cons, if_pos unknown, knownAfter]
  rfl

/-- Among entries with distinct names, an entry can only be paired with itself. -/
theorem eq_of_mem_paired {all entries others : List α} (distinct : (all.map nameOf).Nodup)
    (subset : entries ⊆ all) (subsetOthers : others ⊆ all) {pair : α × α}
    (mem : pair ∈ paired nameOf others entries) : pair.1 = pair.2 := by
  obtain ⟨memEntries, found⟩ := mem_paired_iff.mp mem
  have memOthers := mem_of_named found
  exact List.inj_on_of_nodup_map distinct (subsetOthers memOthers) (subset memEntries)
    (nameOf_named found)

end Lists

/-! ### A family with one more entry -/

section Family

variable {α : Type} {nameOf : α → String} {before after entries : List α} {a : α}
  {add remove : α → Change} {modify : α × α → List Change}
  (silent : ∀ a, modify (a, a) = [])
include silent

theorem modified_eq_nil {all current target : List α} (distinct : (all.map nameOf).Nodup)
    (subset : current ⊆ all) (subsetTarget : target ⊆ all) :
    (paired nameOf current target).flatMap modify = [] := by
  refine List.flatMap_eq_nil_iff.mpr ?_
  rintro ⟨existing, a⟩ mem
  obtain rfl : existing = a := eq_of_mem_paired distinct subsetTarget subset mem
  exact silent existing

theorem family_self (distinct : (entries.map nameOf).Nodup) :
    (unmatched nameOf entries entries).map add ++ (unmatched nameOf entries entries).map remove ++
      (paired nameOf entries entries).flatMap modify = [] := by
  have known : unmatched nameOf entries entries = [] :=
    unmatched_eq_nil_of_subset (List.Subset.refl entries)
  rw [known, modified_eq_nil silent distinct (List.Subset.refl _) (List.Subset.refl _)]
  rfl

section Insert

variable (distinct : ((before ++ a :: after).map nameOf).Nodup)
include distinct

theorem family_insert :
    (unmatched nameOf (before ++ after) (before ++ a :: after)).map add ++
        (unmatched nameOf (before ++ a :: after) (before ++ after)).map remove ++
        (paired nameOf (before ++ after) (before ++ a :: after)).flatMap modify =
      [add a] := by
  have subset : before ++ after ⊆ before ++ a :: after :=
    ((List.sublist_cons_self a after).append_left before).subset
  rw [unmatched_insert distinct, unmatched_eq_nil_of_subset subset,
    modified_eq_nil silent distinct subset (List.Subset.refl _)]
  rfl

theorem family_remove :
    (unmatched nameOf (before ++ a :: after) (before ++ after)).map add ++
        (unmatched nameOf (before ++ after) (before ++ a :: after)).map remove ++
        (paired nameOf (before ++ a :: after) (before ++ after)).flatMap modify =
      [remove a] := by
  have subset : before ++ after ⊆ before ++ a :: after :=
    ((List.sublist_cons_self a after).append_left before).subset
  rw [unmatched_insert distinct, unmatched_eq_nil_of_subset subset,
    modified_eq_nil silent distinct (List.Subset.refl _) subset]
  rfl

end Insert

end Family

/-! ### A schema with one more member -/

theorem modifyProperty_self (p : Property) : modifyProperty p p = [] :=
  modifyProperty_eq_nil (by simp [propertyDiffers])

theorem modifyReference_self (r : Reference) : modifyReference r r = [] :=
  modifyReference_eq_nil (by simp [referenceDiffers])

section Members

variable {current target : Collection} (unique : current.nameClashes = [])
include unique

theorem propertyChanges_eq_nil (same : current.properties = target.properties) :
    propertyChanges current target = [] := by
  rw [propertyChanges_eq, ← same]
  exact family_self modifyProperty_self (Collection.nodup_properties unique)

theorem referenceChanges_eq_nil (same : current.references = target.references) :
    referenceChanges current target = [] := by
  rw [referenceChanges_eq, ← same]
  exact family_self modifyReference_self (Collection.nodup_references unique)

theorem vectorChanges_eq_nil (same : current.vectors = target.vectors) :
    vectorChanges current target = [] := by
  rw [vectorChanges_eq, ← same]
  exact family_self (fun _ => rfl) (Collection.nodup_vectors unique)

end Members

/-- What changes between two schemas that differ in their members only. -/
theorem transition_of_members {current target : Collection}
    (description : current.description = target.description)
    (replication : current.replication = target.replication)
    (multiTenancy : current.multiTenancy = target.multiTenancy) :
    transition current target =
      propertyChanges current target ++ referenceChanges current target ++
        vectorChanges current target := by
  have settledDescription : descriptionChanges current target = [] :=
    if_neg (not_not.mpr description)
  have settledReplication : replicationChanges current target = [] := by
    unfold replicationChanges
    rw [replication]
    cases target.replication.factor with
    | none => rfl
    | some factor => exact if_neg (not_not.mpr rfl)
  rw [transition, settledDescription, settledReplication, tenantChanges_eq_nil multiTenancy,
    List.append_nil, List.append_nil, List.nil_append]

section OneFamily

variable {current target : Collection} (unique : current.nameClashes = [])
include unique

/-- Between schemas that differ in one family only, the plan is that of the family. -/
theorem transition_of_properties
    (same : target = { current with properties := target.properties }) :
    transition current target = propertyChanges current target := by
  have references : current.references = target.references := by rw [same]
  have vectors : current.vectors = target.vectors := by rw [same]
  rw [transition_of_members (by rw [same]) (by rw [same]) (by rw [same]),
    referenceChanges_eq_nil unique references, vectorChanges_eq_nil unique vectors,
    List.append_nil, List.append_nil]

theorem transition_of_references
    (same : target = { current with references := target.references }) :
    transition current target = referenceChanges current target := by
  have properties : current.properties = target.properties := by rw [same]
  have vectors : current.vectors = target.vectors := by rw [same]
  rw [transition_of_members (by rw [same]) (by rw [same]) (by rw [same]),
    propertyChanges_eq_nil unique properties, vectorChanges_eq_nil unique vectors,
    List.nil_append, List.append_nil]

theorem transition_of_vectors (same : target = { current with vectors := target.vectors }) :
    transition current target = vectorChanges current target := by
  have properties : current.properties = target.properties := by rw [same]
  have references : current.references = target.references := by rw [same]
  rw [transition_of_members (by rw [same]) (by rw [same]) (by rw [same]),
    propertyChanges_eq_nil unique properties, referenceChanges_eq_nil unique references,
    List.nil_append, List.nil_append]

/-- A schema with unique names does not differ from itself. -/
theorem changes_self : changes (some current) current = [] := by
  rw [changes, transition_of_properties unique rfl, propertyChanges_eq_nil unique rfl]

end OneFamily

/-- The change that makes a member. -/
def addition : ChangeSubject → Change
  | .property p => addProperty p
  | .reference r => addReference r
  | .vector v => addVector v

/-- The change that drops a member. -/
def removal : ChangeSubject → Change
  | .property p => removeProperty p
  | .reference r => removeReference r
  | .vector v => removeVector v

theorem about_addition (subject : ChangeSubject) :
    (addition subject).isSafe = true ∧ (addition subject).kind = subject.additionKind ∧
      (addition subject).subject = some subject := by
  cases subject with
  | property p => exact ⟨rfl, rfl, rfl⟩
  | reference r => exact ⟨rfl, rfl, rfl⟩
  | vector v => exact ⟨rfl, rfl, rfl⟩

theorem about_removal (subject : ChangeSubject) :
    (removal subject).isSafe = false ∧ (removal subject).kind = subject.removalKind ∧
      (removal subject).subject = some subject := by
  cases subject with
  | property p => exact ⟨rfl, rfl, rfl⟩
  | reference r => exact ⟨rfl, rfl, rfl⟩
  | vector v => exact ⟨rfl, rfl, rfl⟩

/-- **One more member is one change**, and one change back. -/
theorem changes_of_growsBy {c c' : Collection} {subject : ChangeSubject}
    (uniqueSmaller : c.nameClashes = []) (unique : c'.nameClashes = [])
    (grows : c.GrowsBy c' subject) :
    changes (some c) c' = [addition subject] ∧ changes (some c') c = [removal subject] := by
  cases grows with
  | property before after p entries grown =>
      subst grown
      have distinct := Collection.nodup_properties unique
      constructor
      · rw [changes, transition_of_properties uniqueSmaller rfl, propertyChanges_eq, entries]
        exact family_insert modifyProperty_self distinct
      · rw [changes, transition_of_properties unique rfl, propertyChanges_eq, entries]
        exact family_remove modifyProperty_self distinct
  | reference before after r entries grown =>
      subst grown
      have distinct := Collection.nodup_references unique
      constructor
      · rw [changes, transition_of_references uniqueSmaller rfl, referenceChanges_eq, entries]
        exact family_insert modifyReference_self distinct
      · rw [changes, transition_of_references unique rfl, referenceChanges_eq, entries]
        exact family_remove modifyReference_self distinct
  | vector before after v entries grown =>
      subst grown
      have distinct := Collection.nodup_vectors unique
      constructor
      · rw [changes, transition_of_vectors uniqueSmaller rfl, vectorChanges_eq, entries]
        exact family_insert (fun _ => rfl) distinct
      · rw [changes, transition_of_vectors unique rfl, vectorChanges_eq, entries]
        exact family_remove (fun _ => rfl) distinct

/-! ### A model with one more field -/

section Fields

variable {n : Nat} {s : Synthesizer} {types : Catalog n} {m : Model n} {f : Field n}
  {position : Nat} {c c' : Collection}

/-- **One more field is one change.** From the schema of a model without a hook for the
collection to that of the model with one more field, wherever it is put, the plan is a single
safe change that makes what is synthesized for the field. The way back is a single breaking
change that drops it. -/
theorem changes_withField (unhooked : m.directive.hook = none)
    (built : s.synthesize types m = .ok c)
    (builtWith : s.synthesize types (m.withField position f) = .ok c') :
    ∃ subject, s.subjectOf types m c' f = .ok subject ∧
      (∃ added, changes (some c) c' = [added] ∧ added.isSafe = true ∧
        added.kind = subject.additionKind ∧ added.subject = some subject) ∧
      ∃ removed, changes (some c') c = [removed] ∧ removed.isSafe = false ∧
        removed.kind = subject.removalKind ∧ removed.subject = some subject := by
  obtain ⟨subject, synthesized, grows⟩ := Synthesizer.growsBy_of_synthesize unhooked built builtWith
  have uniqueSmaller := Synthesizer.nameClashes_of_synthesize built
  have unique := Synthesizer.nameClashes_of_synthesize builtWith
  obtain ⟨onwards, back⟩ := changes_of_growsBy uniqueSmaller unique grows
  have added := about_addition subject
  have removed := about_removal subject
  exact ⟨subject, synthesized, ⟨_, onwards, added⟩, ⟨_, back, removed⟩⟩

end Fields

/-! ### A recipe that gets a vector -/

def recipeTypes : Catalog 1
  | 0 =>
    { typeName := "Step"
      model :=
        { typeName := "Step"
          fields := [{ ident := "text", valueType := .scalar .string }] } }

def recipe : Model 1 where
  typeName := "Recipe"
  fields := [
    { ident := "title", valueType := .scalar .string },
    { ident := "steps", valueType := .list (.nested 0) },
    { ident := "author", valueType := .scalar .uuid, reference := some { target := "Person" } }]

def taste : Field 1 where
  ident := "taste"
  valueType := .list (.scalar .float32)
  vector := some { vectorizer := .openAi, sources := ["title"] }

def recipeSchema : Collection where
  name := "Recipe"
  properties := [
    .ofKind "title" .text,
    { name := "steps", kinds := [.objectArray], nested := [.ofKind "text" .text] }]
  references := [⟨"author", "Person", none⟩]

def tasteVector : NamedVector where
  name := "taste"
  vectorizer := .openAi none none none ["title"] none
  index := IndexFamily.hnsw.plainIndex .cosine

theorem changes_withField_recipe :
    let grown := { recipeSchema with vectors := [tasteVector] }
    recipe.directive.hook = none ∧
      ({} : Synthesizer).synthesize recipeTypes recipe = .ok recipeSchema ∧
      ({} : Synthesizer).synthesize recipeTypes (recipe.withField 1 taste) = .ok grown ∧
      (∃ added, changes (some recipeSchema) grown = [added] ∧ added.isSafe = true ∧
        added.subject = some (.vector tasteVector)) ∧
      ∃ removed, changes (some grown) recipeSchema = [removed] ∧ removed.isSafe = false ∧
        removed.subject = some (.vector tasteVector) := by
  intro grown
  have built : ({} : Synthesizer).synthesize recipeTypes recipe = .ok recipeSchema := by
    decide +kernel
  have builtWith : ({} : Synthesizer).synthesize recipeTypes (recipe.withField 1 taste) =
      .ok grown := by
    decide +kernel
  have expected : ({} : Synthesizer).subjectOf recipeTypes recipe grown taste =
      .ok (.vector tasteVector) := by
    decide +kernel
  obtain ⟨subject, synthesized, ⟨added, onwards, safe, -, about⟩,
    ⟨removed, back, breaking, -, about'⟩⟩ := changes_withField rfl built builtWith
  obtain rfl : subject = .vector tasteVector := Except.ok.inj (synthesized.symm.trans expected)
  exact ⟨rfl, built, builtWith, ⟨added, onwards, safe, about⟩, ⟨removed, back, breaking, about'⟩⟩

end Migration

end CollectionSchema
