import CollectionSchema.Migration.Plan
import CollectionSchema.Proofs.Names.Matching
import CollectionSchema.Proofs.Names.Unique

/-!
The families of a migration plan, matched by name.

Properties, references and vectors are compared in one way: entries that the
other side has no name for are `unmatched`, and the others are `paired` with the
entry of their name. `propertyChanges_eq`, `referenceChanges_eq` and
`vectorChanges_eq` read the changes of each family in these terms.

* `isSafe_toReach_iff`: a plan is safe exactly when every member of the current
  schema is matched in the target, paired properties have one primary kind, and
  tenants are neither switched on nor off.
* `named_of_safe`: what that means for one property.
* `subjects_addProperty`, `subjects_addReference`: the members a plan adds.
-/

namespace CollectionSchema

namespace Migration

/-! ### The changes of a family -/

theorem propertyChanges_eq (current target : Collection) :
    propertyChanges current target =
      (unmatched (·.name) current.properties target.properties).map addProperty ++
        (unmatched (·.name) target.properties current.properties).map removeProperty ++
        (paired (·.name) current.properties target.properties).flatMap
          fun pair => modifyProperty pair.1 pair.2 := by
  rw [flatMap_paired, propertyChanges]
  refine congrArg (_ ++ ·) (List.flatMap_congr fun p _ => ?_)
  rw [Collection.property?_eq_named]
  cases named (·.name) current.properties p.name <;> rfl

theorem referenceChanges_eq (current target : Collection) :
    referenceChanges current target =
      (unmatched (·.name) current.references target.references).map addReference ++
        (unmatched (·.name) target.references current.references).map removeReference ++
        (paired (·.name) current.references target.references).flatMap
          fun pair => modifyReference pair.1 pair.2 := by
  rw [flatMap_paired, referenceChanges]
  refine congrArg (_ ++ ·) (List.flatMap_congr fun r _ => ?_)
  rw [Collection.reference?_eq_named]
  cases named (·.name) current.references r.name <;> rfl

/-- Vectors that both schemas have are left alone. -/
theorem vectorChanges_eq (current target : Collection) :
    vectorChanges current target =
      (unmatched (·.name) current.vectors target.vectors).map addVector ++
        (unmatched (·.name) target.vectors current.vectors).map removeVector ++
        (paired (·.name) current.vectors target.vectors).flatMap fun _ => [] := by
  rw [List.flatMap_eq_nil_iff.mpr fun _ _ => rfl, List.append_nil]
  rfl

/-- What can become of a property that both schemas have. -/
theorem mem_modifyProperty_iff {existing p : Property} {ch : Change} :
    ch ∈ modifyProperty existing p ↔
      existing.kind? ≠ p.kind? ∧ ch = modifyPropertyType existing p ∨
        existing.kind? = p.kind? ∧ existing.description ≠ p.description ∧
          ch = updatePropertyDescription existing p := by
  unfold modifyProperty
  split_ifs with kinds descriptions
  · simp [kinds]
  · simp [not_not.mp kinds, descriptions]
  · simp [not_not.mp kinds, not_not.mp descriptions]

/-- What can become of a reference that both schemas have. -/
theorem mem_modifyReference_iff {existing r : Reference} {ch : Change} :
    ch ∈ modifyReference existing r ↔
      existing.description ≠ r.description ∧ ch = updateReferenceDescription existing r := by
  unfold modifyReference
  split_ifs with descriptions
  · simp [descriptions]
  · simp [not_not.mp descriptions]

/-! ### What a family can change -/

section Cases

variable {current target : Collection} {motive : Change → Prop}

/-- What holds of the four changes of properties holds of all in a plan. -/
theorem propertyChanges_cases (added : ∀ p, motive (addProperty p))
    (removed : ∀ p, motive (removeProperty p))
    (retyped : ∀ existing p, motive (modifyPropertyType existing p))
    (described : ∀ existing p, motive (updatePropertyDescription existing p)) {ch : Change}
    (mem : ch ∈ propertyChanges current target) : motive ch := by
  simp only [propertyChanges_eq, List.mem_append, List.mem_map, List.mem_flatMap,
    mem_modifyProperty_iff] at mem
  rcases mem with (⟨p, -, rfl⟩ | ⟨p, -, rfl⟩) | ⟨pair, -, ⟨-, rfl⟩ | ⟨-, -, rfl⟩⟩
  · exact added p
  · exact removed p
  · exact retyped pair.1 pair.2
  · exact described pair.1 pair.2

/-- What holds of the three changes of references holds of all in a plan. -/
theorem referenceChanges_cases (added : ∀ r, motive (addReference r))
    (removed : ∀ r, motive (removeReference r))
    (described : ∀ existing r, motive (updateReferenceDescription existing r)) {ch : Change}
    (mem : ch ∈ referenceChanges current target) : motive ch := by
  simp only [referenceChanges_eq, List.mem_append, List.mem_map, List.mem_flatMap,
    mem_modifyReference_iff] at mem
  rcases mem with (⟨r, -, rfl⟩ | ⟨r, -, rfl⟩) | ⟨pair, -, -, rfl⟩
  · exact added r
  · exact removed r
  · exact described pair.1 pair.2

/-- What holds of the two changes of vectors holds of all in a plan. -/
theorem vectorChanges_cases (added : ∀ v, motive (addVector v))
    (removed : ∀ v, motive (removeVector v)) {ch : Change}
    (mem : ch ∈ vectorChanges current target) : motive ch := by
  simp only [vectorChanges, List.mem_append, List.mem_map] at mem
  rcases mem with ⟨v, -, rfl⟩ | ⟨v, -, rfl⟩
  · exact added v
  · exact removed v

end Cases

/-! ### The verdict -/

theorem all_isSafe_modifyProperty {existing p : Property} :
    (modifyProperty existing p).all (·.isSafe) ↔ existing.kind? = p.kind? := by
  rw [List.all_eq_true]
  constructor
  · intro safe
    by_contra kinds
    cases safe _ (mem_modifyProperty_iff.mpr (.inl ⟨kinds, rfl⟩))
  · intro kinds ch mem
    rcases mem_modifyProperty_iff.mp mem with ⟨differ, -⟩ | ⟨-, -, rfl⟩
    · exact absurd kinds differ
    · rfl

theorem all_isSafe_modifyReference (existing r : Reference) :
    (modifyReference existing r).all (·.isSafe) := by
  refine List.all_eq_true.mpr fun ch mem => ?_
  obtain ⟨-, rfl⟩ := mem_modifyReference_iff.mp mem
  rfl

theorem all_isSafe_descriptionChanges (current target : Collection) :
    (descriptionChanges current target).all (·.isSafe) := by
  unfold descriptionChanges
  split_ifs <;> simp [Change.safe]

theorem all_isSafe_replicationChanges (current target : Collection) :
    (replicationChanges current target).all (·.isSafe) := by
  unfold replicationChanges
  cases target.replication.factor with
  | none => rfl
  | some factor => dsimp only; split_ifs <;> simp [Change.safe]

theorem all_isSafe_tenantChanges {current target : Collection} :
    (tenantChanges current target).all (·.isSafe) ↔
      current.multiTenancy.enabled = target.multiTenancy.enabled := by
  unfold tenantChanges
  by_cases same : current.multiTenancy.enabled = target.multiTenancy.enabled
  · simp only [same, ne_eq, not_true_eq_false, if_false]
    split_ifs <;> simp [Change.safe]
  · simp [same, Change.breaking]

/-- A family loses nothing when every current entry is matched. -/
theorem all_isSafe_family {α : Type} {add remove : α → Change} {modified : List Change}
    {added removed : List α} (adds : ∀ a, (add a).isSafe) (removes : ∀ a, ¬ (remove a).isSafe) :
    (added.map add ++ removed.map remove ++ modified).all (·.isSafe) ↔
      removed = [] ∧ modified.all (·.isSafe) := by
  rw [List.all_append, List.all_append, List.all_map, List.all_map]
  have additions : added.all ((·.isSafe) ∘ add) = true := List.all_eq_true.mpr fun a _ => adds a
  cases removed with
  | nil => simp [additions]
  | cons a rest => simp [removes a]

/-- **The verdict, exactly**: a plan is safe just when every member of the current
schema is matched in the target, paired properties agree in their primary kind,
and tenants are neither switched on nor off. -/
theorem isSafe_toReach_iff {current target : Collection} :
    (Plan.toReach (some current) target).isSafe ↔
      unmatched (·.name) target.properties current.properties = [] ∧
      unmatched (·.name) target.references current.references = [] ∧
      unmatched (·.name) target.vectors current.vectors = [] ∧
      (∀ pair ∈ paired (·.name) current.properties target.properties,
        pair.1.kind? = pair.2.kind?) ∧
      current.multiTenancy.enabled = target.multiTenancy.enabled := by
  have kinds : ((paired (·.name) current.properties target.properties).flatMap
      fun pair => modifyProperty pair.1 pair.2).all (·.isSafe) ↔
        ∀ pair ∈ paired (·.name) current.properties target.properties,
          pair.1.kind? = pair.2.kind? := by
    rw [List.all_flatMap, List.all_eq_true]
    exact forall₂_congr fun _ _ => all_isSafe_modifyProperty
  have descriptions : ((paired (·.name) current.references target.references).flatMap
      fun pair => modifyReference pair.1 pair.2).all (·.isSafe) := by
    rw [List.all_flatMap, List.all_eq_true]
    exact fun pair _ => all_isSafe_modifyReference pair.1 pair.2
  have vectors : (vectorChanges current target).all (·.isSafe) ↔
      unmatched (·.name) target.vectors current.vectors = [] := by
    rw [vectorChanges_eq, all_isSafe_family (fun _ => rfl) fun _ => Bool.false_ne_true]
    simp
  have properties : (propertyChanges current target).all (·.isSafe) ↔
      unmatched (·.name) target.properties current.properties = [] ∧
        ∀ pair ∈ paired (·.name) current.properties target.properties,
          pair.1.kind? = pair.2.kind? := by
    rw [propertyChanges_eq, all_isSafe_family (fun _ => rfl) fun _ => Bool.false_ne_true, kinds]
  have references : (referenceChanges current target).all (·.isSafe) ↔
      unmatched (·.name) target.references current.references = [] := by
    rw [referenceChanges_eq, all_isSafe_family (fun _ => rfl) fun _ => Bool.false_ne_true]
    simp only [descriptions, and_true]
  simp only [Plan.isSafe, Plan.toReach, changes, transition, List.all_append, Bool.and_eq_true,
    all_isSafe_descriptionChanges, all_isSafe_replicationChanges, all_isSafe_tenantChanges,
    properties, references, vectors, true_and, and_true]
  constructor
  · rintro ⟨⟨⟨⟨kept, kinds⟩, linked⟩, embedded⟩, tenants⟩
    exact ⟨kept, linked, embedded, kinds, tenants⟩
  · rintro ⟨kept, linked, embedded, kinds, tenants⟩
    exact ⟨⟨⟨⟨kept, kinds⟩, linked⟩, embedded⟩, tenants⟩

/-- After a safe plan every property of the top level is still there. -/
theorem named_of_safe {current target : Collection} (unique : current.nameClashes = [])
    (safe : (Plan.toReach (some current) target).isSafe) {p : Property}
    (mem : p ∈ current.properties) :
    ∃ q, named (·.name) target.properties p.name = some q ∧ q.kind? = p.kind? := by
  obtain ⟨kept, -, -, kinds, -⟩ := isSafe_toReach_iff.mp safe
  have still := named_isSome_iff.mpr (unmatched_eq_nil_iff.mp kept p mem)
  obtain ⟨q, found⟩ := Option.isSome_iff_exists.mp still
  have pair : (p, q) ∈ paired (·.name) current.properties target.properties := by
    refine mem_paired_iff.mpr ⟨mem_of_named found, ?_⟩
    rw [nameOf_named found]
    exact named_of_mem (Collection.nodup_properties unique) mem
  exact ⟨q, found, (kinds _ pair).symm⟩

end Migration

/-! ### Changes by their kind -/

/-- The parts of a plan, each about one part of the schema. -/
inductive ChangeFamily where
  | description
  | properties
  | references
  | vectors
  | replication
  | tenants
deriving DecidableEq, Repr

namespace ChangeFamily

/-- The parts of a plan in their order. -/
def all : List ChangeFamily :=
  [description, properties, references, vectors, replication, tenants]

theorem mem_all (family : ChangeFamily) : family ∈ all := by
  cases family <;> decide

end ChangeFamily

/-- The part of a plan that a kind of change belongs to. -/
def ChangeKind.family : ChangeKind → ChangeFamily
  | updateDescription => .description
  | addProperty | removeProperty | modifyPropertyType | updatePropertyDescription => .properties
  | addReference | removeReference | updateReferenceDescription => .references
  | addVector | removeVector => .vectors
  | updateReplication => .replication
  | updateMultiTenancy => .tenants

/-- The members that the changes of a kind are about, in order. -/
def Plan.subjects (p : Plan) (kind : ChangeKind) : List ChangeSubject :=
  (p.changes.filter (·.kind == kind)).filterMap (·.subject)

namespace Migration

section Kinds

variable {current target : Collection} {ch : Change}

/-- The changes of one part of a plan. -/
def familyChanges (current target : Collection) : ChangeFamily → List Change
  | .description => descriptionChanges current target
  | .properties => propertyChanges current target
  | .references => referenceChanges current target
  | .vectors => vectorChanges current target
  | .replication => replicationChanges current target
  | .tenants => tenantChanges current target

/-- A plan is made part by part. -/
theorem transition_eq_flatMap (current target : Collection) :
    transition current target = ChangeFamily.all.flatMap (familyChanges current target) := by
  simp [ChangeFamily.all, familyChanges, transition]

theorem mem_transition_iff :
    ch ∈ transition current target ↔ ∃ family, ch ∈ familyChanges current target family := by
  rw [transition_eq_flatMap, List.mem_flatMap]
  exact exists_congr fun family => and_iff_right family.mem_all

theorem kind_of_mem_descriptionChanges (mem : ch ∈ descriptionChanges current target) :
    ch.kind = .updateDescription ∧ ch.subject = none := by
  unfold descriptionChanges at mem
  split_ifs at mem
  · rw [List.mem_singleton.mp mem]
    exact ⟨rfl, rfl⟩
  · cases mem

theorem kind_of_mem_replicationChanges (mem : ch ∈ replicationChanges current target) :
    ch.kind = .updateReplication ∧ ch.subject = none := by
  unfold replicationChanges at mem
  split at mem
  · cases mem
  · split_ifs at mem
    · rw [List.mem_singleton.mp mem]
      exact ⟨rfl, rfl⟩
    · cases mem

theorem kind_of_mem_tenantChanges (mem : ch ∈ tenantChanges current target) :
    ch.kind = .updateMultiTenancy ∧ ch.subject = none := by
  unfold tenantChanges at mem
  dsimp only at mem
  split at mem
  · rw [List.mem_singleton.mp mem]
    exact ⟨rfl, rfl⟩
  · split at mem
    · rw [List.mem_singleton.mp mem]
      exact ⟨rfl, rfl⟩
    · cases mem

/-- Every change stands in the part of the plan that its kind belongs to. -/
theorem family_of_mem {family : ChangeFamily} (mem : ch ∈ familyChanges current target family) :
    ch.kind.family = family := by
  cases family with
  | description => rw [(kind_of_mem_descriptionChanges mem).1, ChangeKind.family]
  | properties =>
      exact propertyChanges_cases (motive := fun ch => ch.kind.family = .properties)
        (fun _ => rfl) (fun _ => rfl) (fun _ _ => rfl) (fun _ _ => rfl) mem
  | references =>
      exact referenceChanges_cases (motive := fun ch => ch.kind.family = .references)
        (fun _ => rfl) (fun _ => rfl) (fun _ _ => rfl) mem
  | vectors =>
      exact vectorChanges_cases (motive := fun ch => ch.kind.family = .vectors)
        (fun _ => rfl) (fun _ => rfl) mem
  | replication => rw [(kind_of_mem_replicationChanges mem).1, ChangeKind.family]
  | tenants => rw [(kind_of_mem_tenantChanges mem).1, ChangeKind.family]

theorem filter_kind_eq_nil {kind : ChangeKind} {changes : List Change}
    (other : ∀ ch ∈ changes, ch.kind ≠ kind) : changes.filter (·.kind == kind) = [] :=
  List.filter_eq_nil_iff.mpr fun ch mem same => other ch mem (beq_iff_eq.mp same)

/-- Changes that belong to one part of a plan all stand in that part. -/
theorem filter_transition {belongs : Change → Bool} {family : ChangeFamily}
    (only : ∀ ch, belongs ch = true → ch.kind.family = family) :
    (transition current target).filter belongs =
      (familyChanges current target family).filter belongs := by
  have others : ∀ other, other ≠ family →
      (familyChanges current target other).filter belongs = [] := by
    intro other differs
    refine List.filter_eq_nil_iff.mpr fun ch mem holds => differs ?_
    rw [← family_of_mem mem, only ch holds]
  rw [transition_eq_flatMap, List.filter_flatMap]
  cases family <;> simp [ChangeFamily.all, others]

/-- The changes of a kind all stand in one part of the plan. -/
theorem filter_kind_transition (kind : ChangeKind) :
    (transition current target).filter (·.kind == kind) =
      (familyChanges current target kind.family).filter (·.kind == kind) :=
  filter_transition fun _ same => congrArg ChangeKind.family (beq_iff_eq.mp same)

/-- The additions of a family are its changes of the kind of additions. -/
theorem filter_kind_family {α : Type} {kind : ChangeKind} {add remove : α → Change}
    {modified : List Change} {added removed : List α} (adds : ∀ a, (add a).kind = kind)
    (removes : ∀ a, (remove a).kind ≠ kind) (modifies : ∀ ch ∈ modified, ch.kind ≠ kind) :
    (added.map add ++ removed.map remove ++ modified).filter (·.kind == kind) =
      added.map add := by
  have kept : (added.map add).filter (·.kind == kind) = added.map add := by
    refine List.filter_eq_self.mpr fun ch mem => ?_
    obtain ⟨a, -, rfl⟩ := List.mem_map.mp mem
    exact beq_iff_eq.mpr (adds a)
  have dropped : (removed.map remove).filter (·.kind == kind) = [] := by
    refine filter_kind_eq_nil fun ch mem => ?_
    obtain ⟨a, -, rfl⟩ := List.mem_map.mp mem
    exact removes a
  simp only [List.filter_append, kept, dropped, filter_kind_eq_nil modifies, List.append_nil]

/-- The properties that a plan adds. -/
theorem subjects_addProperty :
    (Plan.toReach (some current) target).subjects .addProperty =
      (unmatched (·.name) current.properties target.properties).map .property := by
  have modifies : ∀ ch ∈ (paired (·.name) current.properties target.properties).flatMap
      (fun pair => modifyProperty pair.1 pair.2), ch.kind ≠ .addProperty := by
    intro ch mem
    obtain ⟨pair, -, mem⟩ := List.mem_flatMap.mp mem
    rcases mem_modifyProperty_iff.mp mem with ⟨-, rfl⟩ | ⟨-, -, rfl⟩
    · nofun
    · nofun
  have adds : ∀ p, (addProperty p).kind = .addProperty := fun _ => rfl
  have removes : ∀ p, (removeProperty p).kind ≠ .addProperty := fun _ => nofun
  have subjects : (·.subject) ∘ addProperty = some ∘ ChangeSubject.property := rfl
  rw [Plan.subjects, Plan.toReach, changes, filter_kind_transition, ChangeKind.family,
    familyChanges, propertyChanges_eq, filter_kind_family adds removes modifies,
    List.filterMap_map, subjects, List.filterMap_eq_map]

/-- The references that a plan adds. -/
theorem subjects_addReference :
    (Plan.toReach (some current) target).subjects .addReference =
      (unmatched (·.name) current.references target.references).map .reference := by
  have modifies : ∀ ch ∈ (paired (·.name) current.references target.references).flatMap
      (fun pair => modifyReference pair.1 pair.2), ch.kind ≠ .addReference := by
    intro ch mem
    obtain ⟨pair, -, mem⟩ := List.mem_flatMap.mp mem
    obtain ⟨-, rfl⟩ := mem_modifyReference_iff.mp mem
    nofun
  have adds : ∀ r, (addReference r).kind = .addReference := fun _ => rfl
  have removes : ∀ r, (removeReference r).kind ≠ .addReference := fun _ => nofun
  have subjects : (·.subject) ∘ addReference = some ∘ ChangeSubject.reference := rfl
  rw [Plan.subjects, Plan.toReach, changes, filter_kind_transition, ChangeKind.family,
    familyChanges, referenceChanges_eq, filter_kind_family adds removes modifies,
    List.filterMap_map, subjects, List.filterMap_eq_map]

end Kinds

end Migration

end CollectionSchema
