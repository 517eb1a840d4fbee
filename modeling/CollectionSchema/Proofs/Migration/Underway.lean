import CollectionSchema.Proofs.Migration.Replay

/-!
A schema while a plan is carried out.

Properties and references share one scope of names, but a plan goes through them one
family after the other, and in each family it adds before it removes. `Throughout` says
that something holds before the first change, between any two and after the last.

* `throughout_family`: while a family is changed, its names are among those of the
  current schema and of the target, each once, and nothing else in the schema changes.
* `nameClashes_underway_iff`: no name is ever used twice on the way exactly when no
  reference of the current schema has the name of a property of the target.
-/

namespace CollectionSchema

namespace Migration

/-! ### Before, between and after changes -/

/-- What holds of the schema before some changes, after each of them, and so after all. -/
def Throughout (holds : Collection → Prop) (changes : List Change) (c : Collection) : Prop :=
  ∀ done, done <+: changes → holds (replay done c)

section Throughout

variable {holds : Collection → Prop} {ch : Change} {xs ys changes : List Change} {c : Collection}

theorem Throughout.first (all : Throughout holds changes c) : holds c :=
  all [] List.nil_prefix

theorem Throughout.last (all : Throughout holds changes c) : holds (replay changes c) :=
  all changes (List.prefix_refl changes)

theorem Throughout.mono {other : Collection → Prop} (all : Throughout holds changes c)
    (weaker : ∀ c, holds c → other c) : Throughout other changes c := by
  intro done isPrefix
  exact weaker _ (all done isPrefix)

theorem throughout_cons_iff :
    Throughout holds (ch :: changes) c ↔ holds c ∧ Throughout holds changes (ch.apply c) := by
  constructor
  · intro all
    refine ⟨all.first, ?_⟩
    intro done isPrefix
    exact all (ch :: done) (List.cons_prefix_cons.mpr ⟨rfl, isPrefix⟩)
  · rintro ⟨first, rest⟩ done isPrefix
    rcases List.prefix_cons_iff.mp isPrefix with rfl | ⟨later, rfl, within⟩
    · exact first
    · exact rest later within

theorem throughout_append_iff :
    Throughout holds (xs ++ ys) c ↔
      Throughout holds xs c ∧ Throughout holds ys (replay xs c) := by
  constructor
  · intro all
    constructor
    · intro done isPrefix
      exact all done (isPrefix.trans (List.prefix_append xs ys))
    · intro done isPrefix
      have later := all (xs ++ done) ((List.prefix_append_right_inj xs).mpr isPrefix)
      rwa [replay_append] at later
  · rintro ⟨left, right⟩ done isPrefix
    rcases List.prefix_or_prefix_of_prefix isPrefix (List.prefix_append xs ys) with within | beyond
    · exact left done within
    · obtain ⟨later, rfl⟩ := beyond
      rw [replay_append]
      exact right later ((List.prefix_append_right_inj xs).mp isPrefix)

/-- What every single change keeps holds throughout. -/
theorem throughout_of_step (step : ∀ ch ∈ changes, ∀ c, holds c → holds (ch.apply c))
    (first : holds c) : Throughout holds changes c := by
  induction changes generalizing c with
  | nil =>
      intro done isPrefix
      rw [List.prefix_nil.mp isPrefix]
      exact first
  | cons ch rest ih =>
      refine throughout_cons_iff.mpr ⟨first, ?_⟩
      refine ih (fun ch mem => step ch (List.mem_cons_of_mem _ mem)) ?_
      exact step ch (List.mem_cons_self ..) c first

end Throughout

/-! ### While one family is changed -/

/-- Of the schema `start` at most one part was edited, and the names of that part are
among some names, in their order. -/
def Part.Within {α : Type} (part : Part (List α)) (nameOf : α → String) (names : List String)
    (start c : Collection) : Prop :=
  ∃ entries, c = part.set entries start ∧ (entries.map nameOf).Sublist names

section Family

variable {α : Type} {nameOf : α → String} (part : Part (List α)) {names : List String}
  {start c : Collection} {add remove : α → Change} {modify : α × α → List Change}

/-- An edit of the part that adds no names stays among them. -/
theorem Part.Within.edit {part : Part (List α)} (within : part.Within nameOf names start c)
    {entries : List α} (fewer : (entries.map nameOf).Sublist ((part.get c).map nameOf)) :
    part.Within nameOf names start (part.set entries c) := by
  obtain ⟨before, rfl, sublist⟩ := within
  rw [part.get_set] at fewer
  exact ⟨entries, part.set_set _ _ _, fewer.trans sublist⟩

/-- While entries are added, the names are among those at the end. -/
theorem throughout_additions (adds : ∀ a c, (add a).apply c = part.set (part.get c ++ [a]) c)
    {entries : List α} (added : List α)
    (sublist : ((entries ++ added).map nameOf).Sublist names) :
    Throughout (part.Within nameOf names start) (added.map add) (part.set entries start) := by
  induction added generalizing entries with
  | nil =>
      rw [List.append_nil] at sublist
      exact throughout_of_step (fun _ mem => absurd mem List.not_mem_nil) ⟨entries, rfl, sublist⟩
  | cons a rest ih =>
      have here : (entries.map nameOf).Sublist names := by
        rw [List.map_append] at sublist
        exact (List.sublist_append_left _ _).trans sublist
      refine throughout_cons_iff.mpr ⟨⟨entries, rfl, here⟩, ?_⟩
      rw [adds, part.get_set, part.set_set]
      refine ih ?_
      rwa [List.append_assoc, List.singleton_append]

/-- **While a family is changed**, its names are among those of the current schema and
of the target, and nothing else in the schema changes. -/
theorem throughout_family
    (adds : ∀ a c, (add a).apply c = part.set (part.get c ++ [a]) c)
    (removes : ∀ a c, (remove a).apply c = part.set (dropNamed nameOf a (part.get c)) c)
    (modifies : ∀ pair, ∀ ch ∈ modify pair, ∀ c,
      ch.apply c = part.set (replaceNamed nameOf pair.2 (part.get c)) c)
    (target : List α) (c : Collection) :
    Throughout
      (part.Within nameOf ((part.get c ++ unmatched nameOf (part.get c) target).map nameOf) c)
      ((unmatched nameOf (part.get c) target).map add ++
        (unmatched nameOf target (part.get c)).map remove ++
        (paired nameOf (part.get c) target).flatMap modify) c := by
  set names := (part.get c ++ unmatched nameOf (part.get c) target).map nameOf
  have additions : Throughout (part.Within nameOf names c)
      ((unmatched nameOf (part.get c) target).map add) (part.set (part.get c) c) :=
    throughout_additions part adds _ (List.Sublist.refl _)
  rw [part.set_get] at additions
  rw [List.append_assoc]
  refine throughout_append_iff.mpr ⟨additions, throughout_of_step ?_ additions.last⟩
  intro ch mem c' within
  rcases List.mem_append.mp mem with removed | modified
  · obtain ⟨a, -, rfl⟩ := List.mem_map.mp removed
    rw [removes]
    exact within.edit (List.filter_sublist.map nameOf)
  · obtain ⟨pair, -, memModify⟩ := List.mem_flatMap.mp modified
    rw [modifies pair ch memModify]
    refine within.edit ?_
    rw [map_replaceNamed]

end Family

/-! ### The scopes of names -/

section Scopes

variable {start c : Collection} {names : List String} {changes : List Change}

/-- A change that is about no member leaves all names as they are. -/
theorem nameClashes_apply {ch : Change} (bare : ch.subject = none) (c : Collection) :
    (ch.apply c).nameClashes = c.nameClashes := by
  unfold Change.apply
  rw [bare]
  cases ch.kind <;> rfl

theorem throughout_of_bare (bare : ∀ ch ∈ changes, ch.subject = none)
    (clean : c.nameClashes = []) : Throughout (·.nameClashes = []) changes c := by
  refine throughout_of_step ?_ clean
  intro ch mem c clean
  rw [nameClashes_apply (bare ch mem), clean]

section Within

variable (clean : start.nameClashes = []) (distinct : names.Nodup)
include clean distinct

theorem nameClashes_of_within_properties
    (apart : names.Disjoint (start.references.map (·.name)))
    (within : Part.properties.Within (·.name) names start c) : c.nameClashes = [] := by
  obtain ⟨entries, rfl, sublist⟩ := within
  have references := Collection.nodup_references clean
  have vectors := Collection.nodup_vectors clean
  refine Collection.nameClashes_eq_nil (distinct.sublist sublist) references ?_ vectors
  intro name mem
  exact apart (sublist.subset mem)

theorem nameClashes_of_within_references
    (apart : (start.properties.map (·.name)).Disjoint names)
    (within : Part.references.Within (·.name) names start c) : c.nameClashes = [] := by
  obtain ⟨entries, rfl, sublist⟩ := within
  have properties := Collection.nodup_properties clean
  have vectors := Collection.nodup_vectors clean
  refine Collection.nameClashes_eq_nil properties (distinct.sublist sublist) ?_ vectors
  intro name mem memEntries
  exact apart mem (sublist.subset memEntries)

theorem nameClashes_of_within_vectors
    (within : Part.vectors.Within (·.name) names start c) : c.nameClashes = [] := by
  obtain ⟨entries, rfl, sublist⟩ := within
  have properties := Collection.nodup_properties clean
  have references := Collection.nodup_references clean
  have disjoint := Collection.disjoint_names clean
  exact Collection.nameClashes_eq_nil properties references disjoint (distinct.sublist sublist)

end Within

end Scopes

/-! ### The families of a plan -/

section Families

variable {current target c : Collection} (clean : c.nameClashes = [])
  (uniqueTarget : target.nameClashes = [])
include clean uniqueTarget

/-- Properties come and go without clashes when none to come has the name of a reference. -/
theorem throughout_propertyChanges (same : c.properties = current.properties)
    (apart : (c.references.map (·.name)).Disjoint (target.properties.map (·.name))) :
    Throughout (·.nameClashes = []) (propertyChanges current target) c := by
  have distinct := nodup_names_extended (Collection.nodup_properties clean)
    (Collection.nodup_properties uniqueTarget)
  have disjoint : ((c.properties ++ unmatched (·.name) c.properties target.properties).map
      (·.name)).Disjoint (c.references.map (·.name)) := by
    intro name mem memReferences
    rcases mem_names_extended_iff.mp mem with here | there
    · exact Collection.disjoint_names clean here memReferences
    · exact apart memReferences there
  have modifies : ∀ pair : Property × Property, ∀ ch ∈ modifyProperty pair.1 pair.2, ∀ c,
      ch.apply c = Part.properties.set (replaceNamed (·.name) pair.2 c.properties) c := by
    intro pair ch mem c
    rcases mem_modifyProperty_iff.mp mem with ⟨-, rfl⟩ | ⟨-, -, rfl⟩
    · rfl
    · rfl
  rw [propertyChanges_eq, ← same]
  refine Throughout.mono (throughout_family .properties (fun _ _ => rfl) (fun _ _ => rfl)
    modifies target.properties c) ?_
  intro c' within
  exact nameClashes_of_within_properties clean distinct disjoint within

/-- References come and go without clashes when none, old or new, has the name of a property. -/
theorem throughout_referenceChanges (same : c.references = current.references)
    (apart : (c.properties.map (·.name)).Disjoint (target.references.map (·.name))) :
    Throughout (·.nameClashes = []) (referenceChanges current target) c := by
  have distinct := nodup_names_extended (Collection.nodup_references clean)
    (Collection.nodup_references uniqueTarget)
  have disjoint : (c.properties.map (·.name)).Disjoint
      ((c.references ++ unmatched (·.name) c.references target.references).map (·.name)) := by
    intro name memProperties mem
    rcases mem_names_extended_iff.mp mem with here | there
    · exact Collection.disjoint_names clean memProperties here
    · exact apart memProperties there
  have modifies : ∀ pair : Reference × Reference, ∀ ch ∈ modifyReference pair.1 pair.2, ∀ c,
      ch.apply c = Part.references.set (replaceNamed (·.name) pair.2 c.references) c := by
    intro pair ch mem c
    obtain ⟨-, rfl⟩ := mem_modifyReference_iff.mp mem
    rfl
  rw [referenceChanges_eq, ← same]
  refine Throughout.mono (throughout_family .references (fun _ _ => rfl) (fun _ _ => rfl)
    modifies target.references c) ?_
  intro c' within
  exact nameClashes_of_within_references clean distinct disjoint within

/-- Vectors have a scope of their own. -/
theorem throughout_vectorChanges (same : c.vectors = current.vectors) :
    Throughout (·.nameClashes = []) (vectorChanges current target) c := by
  have distinct := nodup_names_extended (Collection.nodup_vectors clean)
    (Collection.nodup_vectors uniqueTarget)
  rw [vectorChanges_eq, ← same]
  refine Throughout.mono (throughout_family .vectors (fun _ _ => rfl) (fun _ _ => rfl)
    (fun _ _ mem => absurd mem List.not_mem_nil) target.vectors c) ?_
  intro c' within
  exact nameClashes_of_within_vectors clean distinct within

end Families

/-! ### A whole plan -/

section Plan

variable {current target : Collection}

/-- A property that is added under the name of a reference clashes with it, since the
reference is not removed before. -/
theorem disjoint_of_throughout
    (clean : Throughout (·.nameClashes = []) (transition current target) current) :
    (current.references.map (·.name)).Disjoint (target.properties.map (·.name)) := by
  intro name memReferences memTarget
  -- The plan is followed as far as its last addition of a property.
  simp only [transition, propertyChanges_eq, List.append_assoc] at clean
  obtain ⟨-, later⟩ := throughout_append_iff.mp clean
  obtain ⟨additions, -⟩ := throughout_append_iff.mp later
  have added := additions.last
  rw [replay_descriptionChanges, replay_additions .properties fun _ _ => rfl] at added
  exact Collection.disjoint_names added (mem_names_extended_iff.mpr (.inr memTarget)) memReferences

/-- Where no reference has the name of a property to come, names are distinct all the way:
the references are changed when only properties of the target are left. -/
theorem throughout_of_disjoint (uniqueCurrent : current.nameClashes = [])
    (uniqueTarget : target.nameClashes = [])
    (apart : (current.references.map (·.name)).Disjoint (target.properties.map (·.name))) :
    Throughout (·.nameClashes = []) (transition current target) current := by
  have bareDescription : ∀ ch ∈ descriptionChanges current target, ch.subject = none :=
    fun _ mem => (kind_of_mem_descriptionChanges mem).2
  have bareReplication : ∀ ch ∈ replicationChanges current target, ch.subject = none :=
    fun _ mem => (kind_of_mem_replicationChanges mem).2
  have bareTenants : ∀ ch ∈ tenantChanges current target, ch.subject = none :=
    fun _ mem => (kind_of_mem_tenantChanges mem).2
  have description := throughout_of_bare bareDescription uniqueCurrent
  have properties : Throughout (·.nameClashes = []) (propertyChanges current target)
      (replay (descriptionChanges current target) current) := by
    refine throughout_propertyChanges description.last uniqueTarget ?_ ?_
    · rw [replay_descriptionChanges]
    · rw [replay_descriptionChanges]
      exact apart
  have references : Throughout (·.nameClashes = []) (referenceChanges current target)
      (replay (propertyChanges current target)
        (replay (descriptionChanges current target) current)) := by
    refine throughout_referenceChanges properties.last uniqueTarget ?_ ?_
    · rw [replay_descriptionChanges, replay_propertyChanges (by rfl)]
    · rw [replay_descriptionChanges, replay_propertyChanges (by rfl)]
      intro name mem
      exact Collection.disjoint_names uniqueTarget (mem_target_of_mem_reconcile mem)
  have vectors : Throughout (·.nameClashes = []) (vectorChanges current target)
      (replay (referenceChanges current target) (replay (propertyChanges current target)
        (replay (descriptionChanges current target) current))) := by
    refine throughout_vectorChanges references.last uniqueTarget ?_
    rw [replay_descriptionChanges, replay_propertyChanges (by rfl),
      replay_referenceChanges (by rfl)]
  have replication := throughout_of_bare bareReplication vectors.last
  have tenants := throughout_of_bare bareTenants replication.last
  simp only [transition, throughout_append_iff, replay_append]
  exact ⟨⟨⟨⟨⟨description, properties⟩, references⟩, vectors⟩, replication⟩, tenants⟩

/-- **Plans against the scope of members.** Between schemas without repeated names, no
name is repeated before, between and after the changes of a plan exactly when no name is
that of a reference of the current schema and of a property of the target. -/
theorem nameClashes_underway_iff (uniqueCurrent : current.nameClashes = [])
    (uniqueTarget : target.nameClashes = []) :
    (∀ done, done <+: changes (some current) target → (replay done current).nameClashes = []) ↔
      ¬ ∃ name, name ∈ current.references.map (·.name) ∧ name ∈ target.properties.map (·.name) := by
  constructor
  · rintro clean ⟨name, memReferences, memProperties⟩
    exact disjoint_of_throughout clean memReferences memProperties
  · intro apart
    refine throughout_of_disjoint uniqueCurrent uniqueTarget ?_
    intro name memReferences memProperties
    exact apart ⟨name, memReferences, memProperties⟩

end Plan

/-! ### An editor who changes sides

The name of a property becomes that of a reference, and back. -/

def signed : Collection where
  name := "Article"
  properties := [.ofKind "editor" .text]
  references := [{ name := "author", target := "Person" }]

def linked : Collection where
  name := "Article"
  references := [{ name := "editor", target := "Person" }, { name := "author", target := "Person" }]

theorem nameClashes_underway_article :
    signed.nameClashes = [] ∧ linked.nameClashes = [] ∧
      (∀ done, done <+: changes (some signed) linked → (replay done signed).nameClashes = []) ∧
      ¬ ∀ done, done <+: changes (some linked) signed → (replay done linked).nameClashes = [] := by
  have uniqueSigned : signed.nameClashes = [] := by decide
  have uniqueLinked : linked.nameClashes = [] := by decide
  refine ⟨uniqueSigned, uniqueLinked, ?_, ?_⟩
  · refine (nameClashes_underway_iff uniqueSigned uniqueLinked).mpr ?_
    rintro ⟨name, -, memProperties⟩
    cases memProperties
  · intro clean
    refine (nameClashes_underway_iff uniqueLinked uniqueSigned).mp clean ?_
    exact ⟨"editor", by decide, by decide⟩

end Migration

end CollectionSchema
