import CollectionSchema.Proofs.Documents.Members
import CollectionSchema.Proofs.Migration.Families

/-!
Replaying a plan on the schema it starts from.

`Change.apply` reads a change as an edit of a schema, from its kind, its subject
and its new value alone; `replay` applies changes in order.

* `replay_transition`: replaying a plan edits each part of the schema by its own
  changes: families of members are reconciled with the target.
* `changes_replay`: a replayed plan leaves nothing to change, unless it switches
  tenants on or off and so hides a change of their settings. Then one safe change
  is left, and replaying that leaves nothing.
-/

namespace CollectionSchema

/-! ### Changes as edits -/

/-- The value of a setting of tenants in a list of members. -/
def tenantSetting? (members : Members) (key : String) : Option Bool :=
  (Table.get? members key).bind Json.bool?

/-- Tenant settings after a change to a new value: a truth value switches tenants on
or off, an object sets the settings on automatic tenants. -/
def MultiTenancy.edit (m : MultiTenancy) : Option Json → MultiTenancy
  | some (.bool enabled) => { m with enabled }
  | some (.object members) =>
    { m with
      autoTenantCreation := tenantSetting? members "autoTenantCreation"
      autoTenantActivation := tenantSetting? members "autoTenantActivation" }
  | _ => m

/-- The schema after a change. A change that lacks its subject does nothing. -/
def Change.apply (ch : Change) (c : Collection) : Collection :=
  match ch.kind, ch.subject with
  | .addProperty, some (.property p) => { c with properties := c.properties ++ [p] }
  | .removeProperty, some (.property p) =>
    { c with properties := dropNamed (·.name) p c.properties }
  | .modifyPropertyType, some (.property p)
  | .updatePropertyDescription, some (.property p) =>
    { c with properties := replaceNamed (·.name) p c.properties }
  | .addReference, some (.reference r) => { c with references := c.references ++ [r] }
  | .removeReference, some (.reference r) =>
    { c with references := dropNamed (·.name) r c.references }
  | .updateReferenceDescription, some (.reference r) =>
    { c with references := replaceNamed (·.name) r c.references }
  | .addVector, some (.vector v) => { c with vectors := c.vectors ++ [v] }
  | .removeVector, some (.vector v) => { c with vectors := dropNamed (·.name) v c.vectors }
  | .updateDescription, _ => { c with description := ch.newValue.bind Json.string? }
  | .updateReplication, _ =>
    { c with replication := { c.replication with factor := ch.newValue.bind Json.uint32? } }
  | .updateMultiTenancy, _ => { c with multiTenancy := c.multiTenancy.edit ch.newValue }
  | _, _ => c

/-- The schema after some changes in order. -/
def replay (changes : List Change) (c : Collection) : Collection :=
  changes.foldl (fun c ch => ch.apply c) c

@[simp]
theorem replay_singleton (ch : Change) (c : Collection) : replay [ch] c = ch.apply c := rfl

theorem replay_append (xs ys : List Change) (c : Collection) :
    replay (xs ++ ys) c = replay ys (replay xs c) :=
  List.foldl_append

namespace Migration

/-! ### One family of members -/

/-- A part of a schema that can be read and replaced. -/
structure Part (β : Type) where
  get : Collection → β
  set : β → Collection → Collection
  get_set : ∀ b c, get (set b c) = b
  set_set : ∀ b b' c, set b (set b' c) = set b c
  set_get : ∀ c, set (get c) c = c

namespace Part

def properties : Part (List Property) where
  get := (·.properties)
  set ps c := { c with properties := ps }
  get_set _ _ := rfl
  set_set _ _ _ := rfl
  set_get _ := rfl

def references : Part (List Reference) where
  get := (·.references)
  set rs c := { c with references := rs }
  get_set _ _ := rfl
  set_set _ _ _ := rfl
  set_get _ := rfl

def vectors : Part (List NamedVector) where
  get := (·.vectors)
  set vs c := { c with vectors := vs }
  get_set _ _ := rfl
  set_set _ _ _ := rfl
  set_get _ := rfl

/-- Changes that only edit one part, replayed one after the other, edit that part
one after the other. -/
theorem replay_flatMap {β γ : Type} (part : Part β) {changes : γ → List Change} (edit : β → γ → β)
    (acts : ∀ a c, replay (changes a) c = part.set (edit (part.get c) a) c) (as : List γ)
    (c : Collection) :
    replay (as.flatMap changes) c = part.set (as.foldl edit (part.get c)) c := by
  induction as generalizing c with
  | nil => exact (part.set_get c).symm
  | cons a rest ih =>
      rw [List.flatMap_cons, replay_append, ih, acts, part.get_set, part.set_set, List.foldl_cons]

theorem replay_map {β γ : Type} (part : Part β) {change : γ → Change} (edit : β → γ → β)
    (acts : ∀ a c, (change a).apply c = part.set (edit (part.get c) a) c) (as : List γ)
    (c : Collection) :
    replay (as.map change) c = part.set (as.foldl edit (part.get c)) c := by
  have single : ∀ a c, replay [change a] c = part.set (edit (part.get c) a) c := acts
  rw [List.map_eq_flatMap]
  exact part.replay_flatMap edit single as c

end Part

section Family

variable {α : Type} {nameOf : α → String} {differs : α → α → Bool} (part : Part (List α))
  {add remove : α → Change} {modify : α × α → List Change}

/-- Entries that are added one by one are appended. -/
theorem replay_additions (adds : ∀ a c, (add a).apply c = part.set (part.get c ++ [a]) c)
    (added : List α) (c : Collection) :
    replay (added.map add) c = part.set (part.get c ++ added) c := by
  rw [part.replay_map (fun es a => es ++ [a]) adds, List.foldl_append_eq_append,
    ← List.flatMap_def, List.flatMap_singleton']

/-- The changes of a family reconcile its part of the schema with the target. -/
theorem replay_family
    (adds : ∀ a c, (add a).apply c = part.set (part.get c ++ [a]) c)
    (removes : ∀ a c, (remove a).apply c = part.set (dropNamed nameOf a (part.get c)) c)
    (modifies : ∀ pair c, replay (modify pair) c =
      part.set (replacePair nameOf differs (part.get c) pair) c)
    (target : List α) (c : Collection) :
    replay ((unmatched nameOf (part.get c) target).map add ++
        (unmatched nameOf target (part.get c)).map remove ++
        (paired nameOf (part.get c) target).flatMap modify) c =
      part.set (reconcile nameOf differs (part.get c) target) c := by
  rw [replay_append, replay_append, replay_additions part adds,
    part.replay_map (fun es a => dropNamed nameOf a es) removes, part.get_set, part.set_set,
    part.replay_flatMap (replacePair nameOf differs) modifies, part.get_set, part.set_set]
  rfl

/-- Between a reconciled part and its target nothing is left to change. -/
theorem changes_reconcile_eq_nil (current : List α) {target : List α}
    (distinct : (target.map nameOf).Nodup) (irreflexive : ∀ a, differs a a = false)
    (silent : ∀ pair : α × α, differs pair.1 pair.2 = false → modify pair = []) :
    (unmatched nameOf (reconcile nameOf differs current target) target).map add ++
        (unmatched nameOf target (reconcile nameOf differs current target)).map remove ++
        (paired nameOf (reconcile nameOf differs current target) target).flatMap modify = [] := by
  obtain ⟨kept, complete, same⟩ := reconcile_agrees current distinct irreflexive
  have unmodified := List.flatMap_eq_nil_iff.mpr fun pair mem => silent pair (same pair mem)
  rw [kept, complete, unmodified]
  rfl

end Family

/-! ### The parts of a plan -/

/-- Whether a property has to be replaced. -/
def propertyDiffers (existing p : Property) : Bool :=
  existing.kind? != p.kind? || existing.description != p.description

/-- Whether a reference has to be replaced. -/
def referenceDiffers (existing r : Reference) : Bool :=
  existing.description != r.description

/-- Vectors are never replaced. -/
def vectorDiffers (_ _ : NamedVector) : Bool :=
  false

variable {current target : Collection}

theorem modifyProperty_eq_nil {existing p : Property}
    (same : propertyDiffers existing p = false) : modifyProperty existing p = [] := by
  obtain ⟨kinds, descriptions⟩ := Bool.or_eq_false_iff.mp same
  rw [modifyProperty, if_neg (not_not.mpr (bne_eq_false_iff_eq.mp kinds)),
    if_neg (not_not.mpr (bne_eq_false_iff_eq.mp descriptions))]

theorem modifyReference_eq_nil {existing r : Reference}
    (same : referenceDiffers existing r = false) : modifyReference existing r = [] := by
  rw [modifyReference, if_neg (not_not.mpr (bne_eq_false_iff_eq.mp same))]

/-- Whatever of a property differs, the change that says so carries the whole property. -/
theorem replay_modifyProperty (pair : Property × Property) (c : Collection) :
    replay (modifyProperty pair.1 pair.2) c =
      Part.properties.set (replacePair (·.name) propertyDiffers c.properties pair) c := by
  cases differs : propertyDiffers pair.1 pair.2 with
  | false =>
      simp only [modifyProperty_eq_nil differs, replacePair, differs]
      rfl
  | true =>
      unfold modifyProperty replacePair
      split_ifs with kinds descriptions
      · rfl
      · rfl
      · simp [propertyDiffers, not_not.mp kinds, not_not.mp descriptions] at differs

theorem replay_modifyReference (pair : Reference × Reference) (c : Collection) :
    replay (modifyReference pair.1 pair.2) c =
      Part.references.set (replacePair (·.name) referenceDiffers c.references pair) c := by
  cases differs : referenceDiffers pair.1 pair.2 with
  | false =>
      simp only [modifyReference_eq_nil differs, replacePair, differs]
      rfl
  | true =>
      unfold modifyReference replacePair
      split_ifs with descriptions
      · rfl
      · simp [referenceDiffers, not_not.mp descriptions] at differs

theorem replay_propertyChanges {c : Collection} (same : c.properties = current.properties) :
    replay (propertyChanges current target) c =
      { c with
        properties :=
          reconcile (·.name) propertyDiffers current.properties target.properties } := by
  rw [propertyChanges_eq, ← same]
  exact replay_family .properties (fun _ _ => rfl) (fun _ _ => rfl) replay_modifyProperty
    target.properties c

theorem replay_referenceChanges {c : Collection} (same : c.references = current.references) :
    replay (referenceChanges current target) c =
      { c with
        references :=
          reconcile (·.name) referenceDiffers current.references target.references } := by
  rw [referenceChanges_eq, ← same]
  exact replay_family .references (fun _ _ => rfl) (fun _ _ => rfl) replay_modifyReference
    target.references c

theorem replay_vectorChanges {c : Collection} (same : c.vectors = current.vectors) :
    replay (vectorChanges current target) c =
      { c with
        vectors := reconcile (·.name) vectorDiffers current.vectors target.vectors } := by
  rw [vectorChanges_eq, ← same]
  exact replay_family .vectors (fun _ _ => rfl) (fun _ _ => rfl) (fun _ _ => rfl)
    target.vectors c

theorem replay_descriptionChanges :
    replay (descriptionChanges current target) current =
      { current with description := target.description } := by
  unfold descriptionChanges
  split_ifs with differs
  · have read : (target.description.map Json.string).bind Json.string? = target.description := by
      cases target.description <;> rfl
    exact congrArg (fun description => { current with description }) read
  · rw [← not_not.mp differs]
    rfl

theorem replay_replicationChanges {c : Collection} (same : c.replication = current.replication) :
    replay (replicationChanges current target) c =
      { c with
        replication :=
          { c.replication with
            factor := target.replication.factor.or current.replication.factor } } := by
  unfold replicationChanges
  cases target.replication.factor with
  | none =>
      rw [Option.none_or, ← same]
      rfl
  | some factor =>
      dsimp only
      split_ifs with differs
      · rw [Option.some_or, ← (Json.keeps_uint32 factor).read_write]
        rfl
      · rw [Option.some_or, ← not_not.mp differs, ← same]
        rfl

/-- Reading the tenant settings of a change gives what was written. -/
theorem edit_tenantSettings (m after : MultiTenancy) :
    m.edit (some (tenantSettings after)) = { after with enabled := m.enabled } := by
  obtain ⟨enabled, creation, activation⟩ := after
  cases creation <;> cases activation <;> rfl

/-- Whether one of the settings on automatic tenants differs. -/
def SettingsDiffer (before after : MultiTenancy) : Prop :=
  before.autoTenantCreation ≠ after.autoTenantCreation ∨
    before.autoTenantActivation ≠ after.autoTenantActivation

instance (before after : MultiTenancy) : Decidable (SettingsDiffer before after) :=
  inferInstanceAs (Decidable (_ ∨ _))

theorem eq_of_not_settingsDiffer {before after : MultiTenancy}
    (enabled : before.enabled = after.enabled) (settings : ¬ SettingsDiffer before after) :
    before = after := by
  obtain ⟨creation, activation⟩ := not_or.mp settings
  cases before
  cases after
  rw [MultiTenancy.mk.injEq]
  exact ⟨enabled, not_not.mp creation, not_not.mp activation⟩

/-- A difference in the settings alone is one safe change, and that change carries
all settings of the target. -/
theorem tenantChanges_of_settingsDiffer
    (enabled : current.multiTenancy.enabled = target.multiTenancy.enabled)
    (settings : SettingsDiffer current.multiTenancy target.multiTenancy) :
    ∃ ch, tenantChanges current target = [ch] ∧ ch.isSafe ∧ ch.kind = .updateMultiTenancy ∧
      ∀ c, c.multiTenancy = current.multiTenancy →
        ch.apply c = { c with multiTenancy := target.multiTenancy } := by
  unfold SettingsDiffer at settings
  rw [tenantChanges, if_neg (not_not.mpr enabled), if_pos settings]
  refine ⟨_, rfl, rfl, rfl, fun c same => ?_⟩
  have edited : c.multiTenancy.edit (some (tenantSettings target.multiTenancy)) =
      target.multiTenancy := by
    rw [edit_tenantSettings, same, enabled]
  exact congrArg (fun multiTenancy => { c with multiTenancy }) edited

/-- Tenant settings after a replay: those of the target, or, where tenants are
switched on or off, the current ones but for the switch. -/
def reachedTenants (before after : MultiTenancy) : MultiTenancy :=
  if before.enabled = after.enabled then after else { before with enabled := after.enabled }

theorem replay_tenantChanges {c : Collection} (same : c.multiTenancy = current.multiTenancy) :
    replay (tenantChanges current target) c =
      { c with multiTenancy := reachedTenants current.multiTenancy target.multiTenancy } := by
  unfold reachedTenants
  by_cases enabled : current.multiTenancy.enabled = target.multiTenancy.enabled
  · rw [if_pos enabled]
    by_cases settings : SettingsDiffer current.multiTenancy target.multiTenancy
    · obtain ⟨ch, only, -, -, acts⟩ := tenantChanges_of_settingsDiffer enabled settings
      rw [only, replay_singleton, acts c same]
    · have none : tenantChanges current target = [] := by
        unfold SettingsDiffer at settings
        rw [tenantChanges, if_neg (not_not.mpr enabled), if_neg settings]
      rw [none, ← eq_of_not_settingsDiffer enabled settings, ← same]
      rfl
  · rw [if_neg enabled, tenantChanges, if_pos enabled, ← same]
    rfl

/-! ### A whole plan -/

/-- The schema that a plan leads to, in closed form. -/
def reached (current target : Collection) : Collection :=
  { current with
    description := target.description
    properties := reconcile (·.name) propertyDiffers current.properties target.properties
    references := reconcile (·.name) referenceDiffers current.references target.references
    vectors := reconcile (·.name) vectorDiffers current.vectors target.vectors
    replication :=
      { current.replication with
        factor := target.replication.factor.or current.replication.factor }
    multiTenancy := reachedTenants current.multiTenancy target.multiTenancy }

/-- No part of a plan sees what the parts before it have edited. -/
theorem replay_transition :
    replay (transition current target) current = reached current target := by
  rw [transition, replay_append, replay_append, replay_append, replay_append, replay_append,
    replay_descriptionChanges, replay_propertyChanges (by rfl), replay_referenceChanges (by rfl),
    replay_vectorChanges (by rfl), replay_replicationChanges (by rfl),
    replay_tenantChanges (by rfl)]
  rfl

/-- At most the tenants are left to change. -/
def Settled (current target : Collection) : Prop :=
  ∀ family, family ≠ .tenants → familyChanges current target family = []

theorem Settled.transition_eq (settled : Settled current target) :
    transition current target = tenantChanges current target := by
  have description : descriptionChanges current target = [] := settled .description (by decide)
  have properties : propertyChanges current target = [] := settled .properties (by decide)
  have references : referenceChanges current target = [] := settled .references (by decide)
  have vectors : vectorChanges current target = [] := settled .vectors (by decide)
  have replication : replicationChanges current target = [] := settled .replication (by decide)
  rw [transition, description, properties, references, vectors, replication]
  rfl

/-- Only the changes of the tenants read the tenants. -/
theorem Settled.multiTenancy (settled : Settled current target) (m : MultiTenancy) :
    Settled { current with multiTenancy := m } target := by
  intro family other
  rw [← settled family other]
  cases family with
  | tenants => exact absurd rfl other
  | _ => rfl

theorem tenantChanges_eq_nil (same : current.multiTenancy = target.multiTenancy) :
    tenantChanges current target = [] := by
  simp [tenantChanges, same]

/-- Where every part but the tenants is settled and the tenants agree, nothing is left. -/
theorem Settled.transition_eq_nil (settled : Settled current target)
    (same : current.multiTenancy = target.multiTenancy) : transition current target = [] := by
  rw [settled.transition_eq, tenantChanges_eq_nil same]

theorem settled_reached (unique : target.nameClashes = []) :
    Settled (reached current target) target := by
  intro family other
  cases family with
  | description => exact if_neg (not_not.mpr rfl)
  | properties =>
      have irreflexive : ∀ p, propertyDiffers p p = false := fun p => by simp [propertyDiffers]
      rw [familyChanges, propertyChanges_eq]
      exact changes_reconcile_eq_nil _ (Collection.nodup_properties unique) irreflexive
        fun _ => modifyProperty_eq_nil
  | references =>
      have irreflexive : ∀ r, referenceDiffers r r = false := fun r => by simp [referenceDiffers]
      rw [familyChanges, referenceChanges_eq]
      exact changes_reconcile_eq_nil _ (Collection.nodup_references unique) irreflexive
        fun _ => modifyReference_eq_nil
  | vectors =>
      have irreflexive : ∀ v, vectorDiffers v v = false := fun _ => rfl
      rw [familyChanges, vectorChanges_eq]
      exact changes_reconcile_eq_nil _ (Collection.nodup_vectors unique) irreflexive
        fun _ _ => rfl
  | replication =>
      unfold familyChanges replicationChanges reached
      cases target.replication.factor with
      | none => rfl
      | some factor =>
          have same : (some factor).or current.replication.factor = some factor := Option.some_or
          exact if_neg (not_not.mpr same)
  | tenants => exact absurd rfl other

/-- **A plan carries all it takes to reach its target.** The plan from the replayed
schema is empty, unless tenants were switched and their settings differ as well:
then it is one safe change of the settings, and replaying that leaves nothing. -/
theorem changes_replay (current target : Collection) (unique : target.nameClashes = []) :
    let replayed := replay (changes (some current) target) current
    if current.multiTenancy.enabled ≠ target.multiTenancy.enabled ∧
        SettingsDiffer current.multiTenancy target.multiTenancy then
      ∃ ch, changes (some replayed) target = [ch] ∧ ch.isSafe ∧ ch.kind = .updateMultiTenancy ∧
        changes (some (replay [ch] replayed)) target = []
    else changes (some replayed) target = [] := by
  have settled : Settled (reached current target) target := settled_reached unique
  have tenants : (reached current target).multiTenancy =
      reachedTenants current.multiTenancy target.multiTenancy := rfl
  simp only [changes, replay_transition, replay_singleton]
  split_ifs with hidden
  · obtain ⟨switched, settings⟩ := hidden
    rw [reachedTenants, if_neg switched] at tenants
    have enabled : (reached current target).multiTenancy.enabled = target.multiTenancy.enabled := by
      rw [tenants]
    have unset : SettingsDiffer (reached current target).multiTenancy target.multiTenancy := by
      rw [tenants]
      exact settings
    obtain ⟨ch, only, safe, kind, acts⟩ := tenantChanges_of_settingsDiffer enabled unset
    refine ⟨ch, settled.transition_eq.trans only, safe, kind, ?_⟩
    rw [acts _ rfl]
    exact (settled.multiTenancy _).transition_eq_nil rfl
  · refine settled.transition_eq_nil ?_
    rw [tenants, reachedTenants]
    split_ifs with enabled
    · rfl
    · have settings : ¬ SettingsDiffer current.multiTenancy target.multiTenancy :=
        fun settings => hidden ⟨enabled, settings⟩
      exact eq_of_not_settingsDiffer rfl settings

/-! ### A stock that gets tenants -/

def stock : Collection where
  name := "Stock"
  description := some "Goods on hand"
  properties :=
    [.ofKind "label" .text, { name := "count", kinds := [.int], description := some "pieces" },
      .ofKind "shelf" .text]
  references := [{ name := "maker", target := "Firm" }, { name := "keeper", target := "Person" }]
  vectors := [.selfProvided "photo"]
  replication := { factor := some 3 }
  multiTenancy := { autoTenantCreation := some true }

def stockTarget : Collection where
  name := "Stock"
  properties :=
    [{ name := "count", kinds := [.number], description := some "kilograms" },
      { name := "label", kinds := [.text], description := some "as printed" },
      .ofKind "price" .number]
  references := [{ name := "maker", target := "Firm", description := some "who makes it" }]
  vectors := [.selfProvided "scan"]
  multiTenancy := { enabled := true, autoTenantActivation := some false }

theorem changes_replay_stock :
    stockTarget.nameClashes = [] ∧
      let replayed := replay (changes (some stock) stockTarget) stock
      replayed.properties = [
          { name := "label", kinds := [.text], description := some "as printed" },
          { name := "count", kinds := [.number], description := some "kilograms" },
          .ofKind "price" .number] ∧
        replayed.references = stockTarget.references ∧ replayed.vectors = stockTarget.vectors ∧
        ∃ ch, changes (some replayed) stockTarget = [ch] ∧ ch.isSafe ∧
          ch.kind = .updateMultiTenancy ∧
          changes (some (replay [ch] replayed)) stockTarget = [] := by
  have unique : stockTarget.nameClashes = [] := by decide
  have hidden : stock.multiTenancy.enabled ≠ stockTarget.multiTenancy.enabled ∧
      SettingsDiffer stock.multiTenancy stockTarget.multiTenancy := by decide
  have outcome := changes_replay stock stockTarget unique
  dsimp only at outcome
  rw [if_pos hidden] at outcome
  exact ⟨unique, by decide, by decide, by decide, outcome⟩

end Migration

end CollectionSchema
