import CollectionSchema.Proofs.Migration.Replay
import Mathlib.Data.List.Flatten

/-!
What a plan reports.

Two schemas can differ in several topics: each member under its name, and the
settings that are compared. `difference?` says how they differ in a topic, by
looking it up on both sides.

* `filter_topic_transition`: of each topic a plan reports that difference, once,
  or nothing where there is none.
* `blocks_transition`, `names_block_sublist`: the changes come block by block, and
  within a block in the order of the schema that they are taken from.
* `changes_exact`: all of this for schemas without repeated names.
-/

namespace CollectionSchema

/-! ### What a change is about -/

/-- What two schemas can differ in. -/
inductive Topic where
  | description
  | property (name : String)
  | reference (name : String)
  | vector (name : String)
  | replication
  | tenants
deriving DecidableEq

/-- The part of a plan that treats a topic. -/
def Topic.family : Topic → ChangeFamily
  | description => .description
  | property _ => .properties
  | reference _ => .references
  | vector _ => .vectors
  | replication => .replication
  | tenants => .tenants

/-- What a change tells besides its verdict and its text: what is done, to which
member, and which value replaces which. -/
structure Difference where
  kind : ChangeKind
  subject : Option ChangeSubject
  oldValue : Option Json
  newValue : Option Json
deriving DecidableEq

namespace Change

/-- What a change tells. -/
def difference (ch : Change) : Difference :=
  ⟨ch.kind, ch.subject, ch.oldValue, ch.newValue⟩

/-- The topic of a change, if its subject suits its kind. -/
def topic? (ch : Change) : Option Topic :=
  match ch.kind.family, ch.subject with
  | .description, none => some .description
  | .properties, some (.property p) => some (.property p.name)
  | .references, some (.reference r) => some (.reference r.name)
  | .vectors, some (.vector v) => some (.vector v.name)
  | .replication, none => some .replication
  | .tenants, none => some .tenants
  | _, _ => none

/-- The name of the member that a change is about. -/
def subjectName? (ch : Change) : Option String :=
  ch.subject.map ChangeSubject.name

theorem family_of_topic? {ch : Change} {topic : Topic} (about : ch.topic? = some topic) :
    ch.kind.family = topic.family := by
  unfold topic? at about
  split at about <;> cases about <;> assumption

end Change

namespace Migration

/-! ### How two schemas differ -/

/-- How two properties of one name differ, of which either may be missing. -/
def propertyDifference? : Option Property → Option Property → Option Difference
  | none, none => none
  | none, some p => some ⟨.addProperty, some (.property p), none, some (kindsValue p)⟩
  | some p, none => some ⟨.removeProperty, some (.property p), some (kindsValue p), none⟩
  | some existing, some p =>
    if existing.kind? ≠ p.kind? then
      some ⟨.modifyPropertyType, some (.property p), some (kindsValue existing),
        some (kindsValue p)⟩
    else if existing.description ≠ p.description then
      some ⟨.updatePropertyDescription, some (.property p), existing.description.map .string,
        p.description.map .string⟩
    else none

/-- How two references of one name differ. Their targets are not compared. -/
def referenceDifference? : Option Reference → Option Reference → Option Difference
  | none, none => none
  | none, some r => some ⟨.addReference, some (.reference r), none, some (.string r.target)⟩
  | some r, none => some ⟨.removeReference, some (.reference r), some (.string r.target), none⟩
  | some existing, some r =>
    if existing.description ≠ r.description then
      some ⟨.updateReferenceDescription, some (.reference r), existing.description.map .string,
        r.description.map .string⟩
    else none

/-- How two vectors of one name differ: not at all when there are two. -/
def vectorDifference? : Option NamedVector → Option NamedVector → Option Difference
  | none, some v =>
    some ⟨.addVector, some (.vector v), none, some (.string v.vectorizer.moduleName)⟩
  | some v, none =>
    some ⟨.removeVector, some (.vector v), some (.string v.vectorizer.moduleName), none⟩
  | _, _ => none

/-- How two numbers of replicas differ. A target without a number agrees with all. -/
def replicationDifference? (current : Option UInt32) : Option UInt32 → Option Difference
  | none => none
  | some factor =>
    if current = some factor then none
    else some ⟨.updateReplication, none, current.map fun n => .nat n.toNat,
      some (.nat factor.toNat)⟩

/-- What a change of the tenants shows of one side: whether there are tenants if that
differs, and else the settings on automatic ones. -/
def tenantValue (before after shown : MultiTenancy) : Json :=
  if before.enabled ≠ after.enabled then .bool shown.enabled else tenantSettings shown

/-- How two schemas differ in a topic, if they do. -/
def difference? (current target : Collection) : Topic → Option Difference
  | .description =>
    if current.description = target.description then none
    else some ⟨.updateDescription, none, current.description.map .string,
      target.description.map .string⟩
  | .property name => propertyDifference? (current.property? name) (target.property? name)
  | .reference name => referenceDifference? (current.reference? name) (target.reference? name)
  | .vector name => vectorDifference? (current.vector? name) (target.vector? name)
  | .replication =>
    replicationDifference? current.replication.factor target.replication.factor
  | .tenants =>
    let before := current.multiTenancy
    let after := target.multiTenancy
    if before = after then none
    else some ⟨.updateMultiTenancy, none, some (tenantValue before after before),
      some (tenantValue before after after)⟩

/-! ### The changes of one member -/

section Family

variable {α : Type} {nameOf : α → String} {add remove : α → Change}
  {modify : α × α → List Change} {topicOf : String → Topic} {current target : List α}

/-- Where a filter treats all that comes of an entry alike, it filters the entries. -/
theorem filter_flatMap_of_eq {β : Type} {f : α → List β} {p : β → Bool} {q : α → Bool}
    (same : ∀ a, ∀ b ∈ f a, p b = q a) {as : List α} :
    (as.flatMap f).filter p = (as.filter q).flatMap f := by
  induction as with
  | nil => rfl
  | cons a rest ih =>
      rw [List.flatMap_cons, List.filter_append, ih]
      cases keeps : q a with
      | true =>
          have all : (f a).filter p = f a :=
            List.filter_eq_self.mpr fun b mem => (same a b mem).trans keeps
          rw [all, List.filter_cons_of_pos keeps, List.flatMap_cons]
      | false =>
          have none : (f a).filter p = [] :=
            List.filter_eq_nil_iff.mpr fun b mem => by simp [same a b mem, keeps]
          rw [none, List.nil_append, List.filter_cons_of_neg (Bool.eq_false_iff.mp keeps)]

/-- The changes of a member that is missing on one side, on both or on none. -/
def memberChanges (add remove : α → Change) (modify : α × α → List Change) :
    Option α → Option α → List Change
  | none, none => []
  | none, some b => [add b]
  | some a, none => [remove a]
  | some a, some b => modify (a, b)

/-- A family has of each name the changes of the members of that name. -/
theorem filter_topic_family (injective : Function.Injective topicOf)
    (distinctCurrent : (current.map nameOf).Nodup) (distinctTarget : (target.map nameOf).Nodup)
    (adds : ∀ a, (add a).topic? = some (topicOf (nameOf a)))
    (removes : ∀ a, (remove a).topic? = some (topicOf (nameOf a)))
    (modifies : ∀ pair, ∀ ch ∈ modify pair, ch.topic? = some (topicOf (nameOf pair.2)))
    (name : String) :
    ((unmatched nameOf current target).map add ++ (unmatched nameOf target current).map remove ++
        (paired nameOf current target).flatMap modify).filter
          (·.topic? == some (topicOf name)) =
      memberChanges add remove modify (named nameOf current name) (named nameOf target name) := by
  have added : ((unmatched nameOf current target).map add).filter
      (·.topic? == some (topicOf name)) =
        ((unmatched nameOf current target).filter (nameOf · == name)).map add := by
    rw [List.filter_map]
    refine congrArg (List.map add) (List.filter_congr fun a _ => ?_)
    simp [adds, injective.eq_iff]
  have removed : ((unmatched nameOf target current).map remove).filter
      (·.topic? == some (topicOf name)) =
        ((unmatched nameOf target current).filter (nameOf · == name)).map remove := by
    rw [List.filter_map]
    refine congrArg (List.map remove) (List.filter_congr fun a _ => ?_)
    simp [removes, injective.eq_iff]
  have modified : ((paired nameOf current target).flatMap modify).filter
      (·.topic? == some (topicOf name)) =
        ((paired nameOf current target).filter fun pair => nameOf pair.2 == name).flatMap
          modify := by
    refine filter_flatMap_of_eq fun pair ch mem => ?_
    simp [modifies pair ch mem, injective.eq_iff]
  rw [List.filter_append, List.filter_append, added, removed, modified,
    filter_unmatched distinctTarget, filter_unmatched distinctCurrent,
    filter_paired distinctTarget]
  cases named nameOf current name <;> cases named nameOf target name <;>
    simp [memberChanges]

end Family

section Topics

variable {current target : Collection}

theorem topic?_of_mem_modifyProperty {existing p : Property} {ch : Change}
    (mem : ch ∈ modifyProperty existing p) : ch.topic? = some (.property p.name) := by
  rcases mem_modifyProperty_iff.mp mem with ⟨-, rfl⟩ | ⟨-, -, rfl⟩
  · rfl
  · rfl

theorem topic?_of_mem_modifyReference {existing r : Reference} {ch : Change}
    (mem : ch ∈ modifyReference existing r) : ch.topic? = some (.reference r.name) := by
  obtain ⟨-, rfl⟩ := mem_modifyReference_iff.mp mem
  rfl

theorem map_difference_property (existing p : Option Property) :
    (memberChanges addProperty removeProperty (fun pair => modifyProperty pair.1 pair.2)
      existing p).map Change.difference = (propertyDifference? existing p).toList := by
  cases existing with
  | none => cases p <;> rfl
  | some existing =>
      cases p with
      | none => rfl
      | some p =>
          simp only [memberChanges, propertyDifference?, modifyProperty]
          split_ifs <;> rfl

theorem map_difference_reference (existing r : Option Reference) :
    (memberChanges addReference removeReference (fun pair => modifyReference pair.1 pair.2)
      existing r).map Change.difference = (referenceDifference? existing r).toList := by
  cases existing with
  | none => cases r <;> rfl
  | some existing =>
      cases r with
      | none => rfl
      | some r =>
          simp only [memberChanges, referenceDifference?, modifyReference]
          split_ifs <;> rfl

theorem map_difference_vector (existing v : Option NamedVector) :
    (memberChanges addVector removeVector (fun _ => []) existing v).map Change.difference =
      (vectorDifference? existing v).toList := by
  cases existing <;> cases v <;> rfl

theorem topic?_of_mem_descriptionChanges {ch : Change}
    (mem : ch ∈ descriptionChanges current target) : ch.topic? = some .description := by
  obtain ⟨kind, subject⟩ := kind_of_mem_descriptionChanges mem
  rw [Change.topic?, kind, subject, ChangeKind.family]

theorem topic?_of_mem_replicationChanges {ch : Change}
    (mem : ch ∈ replicationChanges current target) : ch.topic? = some .replication := by
  obtain ⟨kind, subject⟩ := kind_of_mem_replicationChanges mem
  rw [Change.topic?, kind, subject, ChangeKind.family]

theorem topic?_of_mem_tenantChanges {ch : Change} (mem : ch ∈ tenantChanges current target) :
    ch.topic? = some .tenants := by
  obtain ⟨kind, subject⟩ := kind_of_mem_tenantChanges mem
  rw [Change.topic?, kind, subject, ChangeKind.family]

theorem map_difference_description :
    (descriptionChanges current target).map Change.difference =
      (difference? current target .description).toList := by
  unfold descriptionChanges difference?
  by_cases same : current.description = target.description
  · rw [if_neg (not_not.mpr same), if_pos same]
    rfl
  · rw [if_pos same, if_neg same]
    rfl

theorem map_difference_replication :
    (replicationChanges current target).map Change.difference =
      (difference? current target .replication).toList := by
  unfold replicationChanges difference?
  cases target.replication.factor with
  | none => rfl
  | some factor =>
      dsimp only [replicationDifference?]
      by_cases same : current.replication.factor = some factor
      · rw [if_neg (not_not.mpr same), if_pos same]
        rfl
      · rw [if_pos same, if_neg same]
        rfl

/-- The tenants differ when they are switched, or else when their settings differ. -/
theorem map_difference_tenants :
    (tenantChanges current target).map Change.difference =
      (difference? current target .tenants).toList := by
  by_cases same : current.multiTenancy = target.multiTenancy
  · rw [tenantChanges_eq_nil same, difference?, if_pos same]
    rfl
  · rw [tenantChanges, difference?, if_neg same, tenantValue, tenantValue]
    by_cases enabled : current.multiTenancy.enabled = target.multiTenancy.enabled
    · have settings : SettingsDiffer current.multiTenancy target.multiTenancy := by
        by_contra none
        exact same (eq_of_not_settingsDiffer enabled none)
      unfold SettingsDiffer at settings
      rw [if_neg (not_not.mpr enabled), if_pos settings, if_neg (not_not.mpr enabled),
        if_neg (not_not.mpr enabled)]
      rfl
    · rw [if_pos enabled, if_pos enabled, if_pos enabled]
      rfl

/-- Every change of a plan has a topic. -/
theorem isSome_topic?_of_mem {ch : Change} (mem : ch ∈ transition current target) :
    ch.topic?.isSome := by
  obtain ⟨family, mem⟩ := mem_transition_iff.mp mem
  cases family with
  | description => exact topic?_of_mem_descriptionChanges mem ▸ rfl
  | properties =>
      exact propertyChanges_cases (motive := fun ch => ch.topic?.isSome)
        (fun _ => rfl) (fun _ => rfl) (fun _ _ => rfl) (fun _ _ => rfl) mem
  | references =>
      exact referenceChanges_cases (motive := fun ch => ch.topic?.isSome)
        (fun _ => rfl) (fun _ => rfl) (fun _ _ => rfl) mem
  | vectors =>
      exact vectorChanges_cases (motive := fun ch => ch.topic?.isSome)
        (fun _ => rfl) (fun _ => rfl) mem
  | replication => exact topic?_of_mem_replicationChanges mem ▸ rfl
  | tenants => exact topic?_of_mem_tenantChanges mem ▸ rfl

theorem filter_topic_eq_self {changes : List Change} {topic : Topic}
    (about : ∀ ch ∈ changes, ch.topic? = some topic) :
    changes.filter (·.topic? == some topic) = changes :=
  List.filter_eq_self.mpr fun ch mem => beq_iff_eq.mpr (about ch mem)

/-- **Of each topic a plan reports the difference**, once if there is one. -/
theorem filter_topic_transition (uniqueCurrent : current.nameClashes = [])
    (uniqueTarget : target.nameClashes = []) (topic : Topic) :
    ((transition current target).filter (·.topic? == some topic)).map Change.difference =
      (difference? current target topic).toList := by
  rw [filter_transition fun ch about => Change.family_of_topic? (beq_iff_eq.mp about)]
  cases topic with
  | description =>
      rw [Topic.family, familyChanges,
        filter_topic_eq_self fun _ => topic?_of_mem_descriptionChanges,
        map_difference_description]
  | property name =>
      have injective : Function.Injective Topic.property := fun _ _ => Topic.property.inj
      rw [Topic.family, familyChanges, propertyChanges_eq,
        filter_topic_family injective (Collection.nodup_properties uniqueCurrent)
          (Collection.nodup_properties uniqueTarget) (fun _ => rfl) (fun _ => rfl)
          (fun _ _ => topic?_of_mem_modifyProperty),
        map_difference_property]
      rfl
  | reference name =>
      have injective : Function.Injective Topic.reference := fun _ _ => Topic.reference.inj
      rw [Topic.family, familyChanges, referenceChanges_eq,
        filter_topic_family injective (Collection.nodup_references uniqueCurrent)
          (Collection.nodup_references uniqueTarget) (fun _ => rfl) (fun _ => rfl)
          (fun _ _ => topic?_of_mem_modifyReference),
        map_difference_reference]
      rfl
  | vector name =>
      have injective : Function.Injective Topic.vector := fun _ _ => Topic.vector.inj
      rw [Topic.family, familyChanges, vectorChanges_eq,
        filter_topic_family injective (Collection.nodup_vectors uniqueCurrent)
          (Collection.nodup_vectors uniqueTarget) (fun _ => rfl) (fun _ => rfl)
          (fun _ _ mem => absurd mem List.not_mem_nil),
        map_difference_vector]
      rfl
  | replication =>
      rw [Topic.family, familyChanges,
        filter_topic_eq_self fun _ => topic?_of_mem_replicationChanges,
        map_difference_replication]
  | tenants =>
      rw [Topic.family, familyChanges,
        filter_topic_eq_self fun _ => topic?_of_mem_tenantChanges, map_difference_tenants]

end Topics

end Migration

/-! ### The blocks of a plan -/

/-- The blocks of a plan: in each family of members what is new, what goes and what
changes, and each of the settings. -/
inductive ChangeBlock where
  | description
  | addedProperties
  | removedProperties
  | modifiedProperties
  | addedReferences
  | removedReferences
  | modifiedReferences
  | addedVectors
  | removedVectors
  | replication
  | tenants
deriving DecidableEq

namespace ChangeBlock

/-- The blocks in their order. -/
def all : List ChangeBlock :=
  [description, addedProperties, removedProperties, modifiedProperties, addedReferences,
    removedReferences, modifiedReferences, addedVectors, removedVectors, replication, tenants]

theorem mem_all (block : ChangeBlock) : block ∈ all := by
  cases block <;> decide

/-- The names that a block goes through: those of the current schema for what goes, and
those of the target for what is new or changes. -/
def names (current target : Collection) : ChangeBlock → List String
  | addedProperties | modifiedProperties => target.properties.map (·.name)
  | removedProperties => current.properties.map (·.name)
  | addedReferences | modifiedReferences => target.references.map (·.name)
  | removedReferences => current.references.map (·.name)
  | addedVectors => target.vectors.map (·.name)
  | removedVectors => current.vectors.map (·.name)
  | description | replication | tenants => []

end ChangeBlock

/-- The block of a kind of change. -/
def ChangeKind.block : ChangeKind → ChangeBlock
  | addProperty => .addedProperties
  | removeProperty => .removedProperties
  | modifyPropertyType | updatePropertyDescription => .modifiedProperties
  | addReference => .addedReferences
  | removeReference => .removedReferences
  | updateReferenceDescription => .modifiedReferences
  | addVector => .addedVectors
  | removeVector => .removedVectors
  | updateDescription => .description
  | updateReplication => .replication
  | updateMultiTenancy => .tenants

namespace Migration

section Blocks

variable {current target : Collection}

/-- The changes of one block. -/
def blockChanges (current target : Collection) : ChangeBlock → List Change
  | .description => descriptionChanges current target
  | .addedProperties =>
    (unmatched (·.name) current.properties target.properties).map addProperty
  | .removedProperties =>
    (unmatched (·.name) target.properties current.properties).map removeProperty
  | .modifiedProperties =>
    (paired (·.name) current.properties target.properties).flatMap
      fun pair => modifyProperty pair.1 pair.2
  | .addedReferences =>
    (unmatched (·.name) current.references target.references).map addReference
  | .removedReferences =>
    (unmatched (·.name) target.references current.references).map removeReference
  | .modifiedReferences =>
    (paired (·.name) current.references target.references).flatMap
      fun pair => modifyReference pair.1 pair.2
  | .addedVectors => (unmatched (·.name) current.vectors target.vectors).map addVector
  | .removedVectors => (unmatched (·.name) target.vectors current.vectors).map removeVector
  | .replication => replicationChanges current target
  | .tenants => tenantChanges current target

theorem transition_eq_blocks :
    transition current target = ChangeBlock.all.flatMap (blockChanges current target) := by
  rw [transition, propertyChanges_eq, referenceChanges_eq]
  simp only [ChangeBlock.all, blockChanges, vectorChanges, unmatched, List.flatMap_cons,
    List.flatMap_nil, List.append_assoc, List.append_nil]
  rfl

/-- Every change stands in the block of its kind. -/
theorem block_of_mem {block : ChangeBlock} {ch : Change}
    (mem : ch ∈ blockChanges current target block) : ch.kind.block = block := by
  cases block with
  | description => rw [(kind_of_mem_descriptionChanges mem).1, ChangeKind.block]
  | addedProperties =>
      obtain ⟨p, -, rfl⟩ := List.mem_map.mp mem
      rfl
  | removedProperties =>
      obtain ⟨p, -, rfl⟩ := List.mem_map.mp mem
      rfl
  | modifiedProperties =>
      obtain ⟨pair, -, mem⟩ := List.mem_flatMap.mp mem
      rcases mem_modifyProperty_iff.mp mem with ⟨-, rfl⟩ | ⟨-, -, rfl⟩
      · rfl
      · rfl
  | addedReferences =>
      obtain ⟨r, -, rfl⟩ := List.mem_map.mp mem
      rfl
  | removedReferences =>
      obtain ⟨r, -, rfl⟩ := List.mem_map.mp mem
      rfl
  | modifiedReferences =>
      obtain ⟨pair, -, mem⟩ := List.mem_flatMap.mp mem
      obtain ⟨-, rfl⟩ := mem_modifyReference_iff.mp mem
      rfl
  | addedVectors =>
      obtain ⟨v, -, rfl⟩ := List.mem_map.mp mem
      rfl
  | removedVectors =>
      obtain ⟨v, -, rfl⟩ := List.mem_map.mp mem
      rfl
  | replication => rw [(kind_of_mem_replicationChanges mem).1, ChangeKind.block]
  | tenants => rw [(kind_of_mem_tenantChanges mem).1, ChangeKind.block]

/-- Lists under distinct keys, put one after the other, are found by their key. -/
theorem filter_flatMap_key {α κ : Type} [DecidableEq κ] {keys : List κ} {listOf : κ → List α}
    {keyOf : α → κ} (keyed : ∀ k, ∀ a ∈ listOf k, keyOf a = k) (distinct : keys.Nodup) {k : κ}
    (mem : k ∈ keys) : (keys.flatMap listOf).filter (keyOf · == k) = listOf k := by
  have same : ∀ k', ∀ a ∈ listOf k', (keyOf a == k) = (k' == k) := by
    intro k' a memA
    rw [keyed k' a memA]
  rw [filter_flatMap_of_eq same, List.filter_beq, List.count_eq_one_of_mem distinct mem]
  simp

/-- Of each block a plan has the changes of that block. -/
theorem filter_block_transition (block : ChangeBlock) :
    (transition current target).filter (·.kind.block == block) =
      blockChanges current target block := by
  have distinct : ChangeBlock.all.Nodup := by decide
  rw [transition_eq_blocks]
  exact filter_flatMap_key (fun _ _ => block_of_mem) distinct block.mem_all

/-- **A plan comes block by block.** -/
theorem blocks_transition :
    (ChangeBlock.all.flatMap fun block =>
      (transition current target).filter (·.kind.block == block)) =
        transition current target := by
  conv_rhs => rw [transition_eq_blocks]
  exact List.flatMap_congr fun block _ => filter_block_transition block

/-- The names of changes made of unmatched entries keep the order of the entries. -/
theorem names_unmatched_sublist {α : Type} {nameOf : α → String} {others entries : List α}
    {change : α → Change} (about : ∀ a, (change a).subjectName? = some (nameOf a)) :
    (((unmatched nameOf others entries).map change).filterMap Change.subjectName?).Sublist
      (entries.map nameOf) := by
  have names : Change.subjectName? ∘ change = some ∘ nameOf := funext about
  rw [List.filterMap_map, names, List.filterMap_eq_map]
  exact List.filter_sublist.map nameOf

/-- The names of changes made of pairs, at most one of each, keep the order of the
entries. -/
theorem names_modified_sublist {α : Type} {nameOf : α → String} {others entries : List α}
    {modify : α × α → List Change}
    (about : ∀ pair, ((modify pair).filterMap Change.subjectName?).Sublist [nameOf pair.2]) :
    (((paired nameOf others entries).flatMap modify).filterMap Change.subjectName?).Sublist
      (entries.map nameOf) := by
  rw [List.filterMap_flatMap]
  refine (List.Sublist.flatMap_right _ fun pair _ => about pair).trans ?_
  rw [← List.map_eq_flatMap]
  exact names_paired_sublist

theorem names_modifyProperty (existing p : Property) :
    ((modifyProperty existing p).filterMap Change.subjectName?).Sublist [p.name] := by
  unfold modifyProperty
  split_ifs
  · exact List.Sublist.refl _
  · exact List.Sublist.refl _
  · exact List.nil_sublist _

theorem names_modifyReference (existing r : Reference) :
    ((modifyReference existing r).filterMap Change.subjectName?).Sublist [r.name] := by
  unfold modifyReference
  split_ifs
  · exact List.Sublist.refl _
  · exact List.nil_sublist _

/-- Changes without a subject have no names. -/
theorem filterMap_subjectName?_eq_nil {changes : List Change}
    (bare : ∀ ch ∈ changes, ch.subject = none) : changes.filterMap Change.subjectName? = [] := by
  refine List.filterMap_eq_nil_iff.mpr fun ch mem => ?_
  rw [Change.subjectName?, bare ch mem, Option.map_none]

/-- **Within a block names keep the order** of the schema that they are taken from. -/
theorem names_block_sublist (block : ChangeBlock) :
    (((transition current target).filter (·.kind.block == block)).filterMap
      Change.subjectName?).Sublist (block.names current target) := by
  rw [filter_block_transition]
  cases block with
  | description =>
      have bare : ∀ ch ∈ descriptionChanges current target, ch.subject = none :=
        fun _ mem => (kind_of_mem_descriptionChanges mem).2
      exact List.sublist_nil.mpr (filterMap_subjectName?_eq_nil bare)
  | addedProperties => exact names_unmatched_sublist fun _ => rfl
  | removedProperties => exact names_unmatched_sublist fun _ => rfl
  | modifiedProperties =>
      exact names_modified_sublist fun pair => names_modifyProperty pair.1 pair.2
  | addedReferences => exact names_unmatched_sublist fun _ => rfl
  | removedReferences => exact names_unmatched_sublist fun _ => rfl
  | modifiedReferences =>
      exact names_modified_sublist fun pair => names_modifyReference pair.1 pair.2
  | addedVectors => exact names_unmatched_sublist fun _ => rfl
  | removedVectors => exact names_unmatched_sublist fun _ => rfl
  | replication =>
      have bare : ∀ ch ∈ replicationChanges current target, ch.subject = none :=
        fun _ mem => (kind_of_mem_replicationChanges mem).2
      exact List.sublist_nil.mpr (filterMap_subjectName?_eq_nil bare)
  | tenants =>
      have bare : ∀ ch ∈ tenantChanges current target, ch.subject = none :=
        fun _ mem => (kind_of_mem_tenantChanges mem).2
      exact List.sublist_nil.mpr (filterMap_subjectName?_eq_nil bare)

end Blocks

/-- **A plan reports every difference exactly once, in a fixed order.** Between schemas
without repeated names, the changes of each topic are the one difference that the
schemas have in it, or none, and there are no changes besides. They come block by
block, and within a block in the order of the schema that they are taken from. -/
theorem changes_exact {current target : Collection} (uniqueCurrent : current.nameClashes = [])
    (uniqueTarget : target.nameClashes = []) :
    let plan := changes (some current) target
    (∀ topic, (plan.filter (·.topic? == some topic)).map Change.difference =
      (difference? current target topic).toList) ∧
    (∀ ch ∈ plan, ch.topic?.isSome) ∧
    (ChangeBlock.all.flatMap fun block => plan.filter (·.kind.block == block)) = plan ∧
    ∀ block : ChangeBlock,
      ((plan.filter (·.kind.block == block)).filterMap Change.subjectName?).Sublist
        (block.names current target) :=
  ⟨filter_topic_transition uniqueCurrent uniqueTarget, fun _ => isSome_topic?_of_mem,
    blocks_transition, names_block_sublist⟩

/-- Of the stock that gets tenants: a change of kind hides the one of the description,
and a name that the target lacks goes. -/
theorem changes_exact_stock :
    stock.nameClashes = [] ∧ stockTarget.nameClashes = [] ∧
      let plan := changes (some stock) stockTarget
      (plan.filter (·.topic? == some (.property "count"))).map Change.difference =
        [⟨.modifyPropertyType,
          some (.property { name := "count", kinds := [.number], description := "kilograms" }),
          some (.array [.string "int"]), some (.array [.string "number"])⟩] ∧
      (plan.filter (·.topic? == some (.property "shelf"))).map Change.difference =
        [⟨.removeProperty, some (.property (.ofKind "shelf" .text)),
          some (.array [.string "text"]), none⟩] := by
  have uniqueStock : stock.nameClashes = [] := by decide
  have uniqueTarget : stockTarget.nameClashes = [] := by decide
  obtain ⟨each, -⟩ := changes_exact uniqueStock uniqueTarget
  exact ⟨uniqueStock, uniqueTarget, (each (.property "count")).trans (by decide),
    (each (.property "shelf")).trans (by decide)⟩

end Migration

end CollectionSchema
