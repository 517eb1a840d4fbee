import CollectionSchema.Proofs.Migration.Differences

/-!
Rolling a migration back.

A plan and the plan in the opposite direction go through the same two schemas. `Revision` is
what a change says apart from its text and from its member, which is always the one of the
target.

* `subjects_eq_subjects`: what one plan adds the other removes, in the same order.
* `perm_revisions_block`: where the two schemas disagree, one plan revises what the other
  does, with the values exchanged.
* `rollback`: both, for whole plans.
-/

namespace CollectionSchema

/-- What a change does to the member of a name, or to the settings: which value it replaces by
which, and whether stored data is kept. -/
structure Revision where
  kind : ChangeKind
  name : Option String
  oldValue : Option Json
  newValue : Option Json
  isSafe : Bool
deriving DecidableEq

/-- The revision that puts the old value back. -/
def Revision.reversed (r : Revision) : Revision :=
  { r with oldValue := r.newValue, newValue := r.oldValue }

/-- What a change revises. -/
def Change.revision (ch : Change) : Revision :=
  ⟨ch.kind, ch.subjectName?, ch.oldValue, ch.newValue, ch.isSafe⟩

/-- The revisions of a kind in a plan, in order. -/
def Plan.revisions (p : Plan) (kind : ChangeKind) : List Revision :=
  (p.changes.filter (·.kind == kind)).map Change.revision

/-- Changes of the kind put one value in the place of another, in either direction. A number of
replicas is not among them: a target that sets none leaves it alone. -/
def ChangeKind.Replaces : ChangeKind → Prop
  | modifyPropertyType | updatePropertyDescription | updateReferenceDescription
  | updateDescription | updateMultiTenancy => True
  | _ => False

namespace Migration

variable {current target : Collection}

/-! ### The changes of a kind -/

/-- The changes of a kind all stand in its block. -/
theorem filter_kind_block (kind : ChangeKind) :
    (transition current target).filter (·.kind == kind) =
      (blockChanges current target kind.block).filter (·.kind == kind) := by
  rw [← filter_block_transition, List.filter_filter]
  refine List.filter_congr fun ch _ => ?_
  cases same : ch.kind == kind with
  | false => rfl
  | true => simp [beq_iff_eq.mp same]

/-- The subjects of a block whose changes are all of one kind. -/
theorem subjects_eq_map {α : Type} {kind : ChangeKind} {entries : List α} (change : α → Change)
    (subject : α → ChangeSubject)
    (block : blockChanges current target kind.block = entries.map change)
    (kinds : ∀ a, (change a).kind = kind) (about : ∀ a, (change a).subject = some (subject a)) :
    (Plan.toReach (some current) target).subjects kind = entries.map subject := by
  have all : (entries.map change).filter (·.kind == kind) = entries.map change := by
    refine List.filter_eq_self.mpr fun ch mem => ?_
    obtain ⟨a, -, rfl⟩ := List.mem_map.mp mem
    exact beq_iff_eq.mpr (kinds a)
  have subjects : (·.subject) ∘ change = some ∘ subject := funext about
  rw [Plan.subjects, Plan.toReach, changes, filter_kind_block, block, all, List.filterMap_map,
    subjects, List.filterMap_eq_map]

/-- What leads to one schema adds to it what leads away from it removes. -/
theorem subjects_eq_subjects :
    let forth := Plan.toReach (some current) target
    let back := Plan.toReach (some target) current
    forth.subjects .addProperty = back.subjects .removeProperty ∧
      forth.subjects .addReference = back.subjects .removeReference ∧
      forth.subjects .addVector = back.subjects .removeVector := by
  refine ⟨?_, ?_, ?_⟩
  · exact (subjects_eq_map addProperty .property rfl (fun _ => rfl) fun _ => rfl).trans
      (subjects_eq_map removeProperty .property rfl (fun _ => rfl) fun _ => rfl).symm
  · exact (subjects_eq_map addReference .reference rfl (fun _ => rfl) fun _ => rfl).trans
      (subjects_eq_map removeReference .reference rfl (fun _ => rfl) fun _ => rfl).symm
  · exact (subjects_eq_map addVector .vector rfl (fun _ => rfl) fun _ => rfl).trans
      (subjects_eq_map removeVector .vector rfl (fun _ => rfl) fun _ => rfl).symm

/-! ### Revisions in both directions -/

/-- Pairs that are revised alike from both sides make revisions that reverse each other. -/
theorem perm_revisions_paired {α : Type} {nameOf : α → String} {entries others : List α}
    {modify : α → α → List Change} (distinct : (entries.map nameOf).Nodup)
    (distinctOthers : (others.map nameOf).Nodup)
    (reverses : ∀ b a, nameOf b = nameOf a →
      (modify b a).map Change.revision =
        (modify a b).map (Revision.reversed ∘ Change.revision)) :
    (((paired nameOf others entries).flatMap fun pair => modify pair.1 pair.2).map
        Change.revision).Perm
      (((paired nameOf entries others).flatMap fun pair => modify pair.1 pair.2).map
        (Revision.reversed ∘ Change.revision)) := by
  -- Seen from the other side, a pair comes swapped, and its revisions reversed.
  rw [List.map_flatMap, List.map_flatMap]
  have sides : (paired nameOf others entries).flatMap
      (fun pair => (modify pair.1 pair.2).map Change.revision) =
        (paired nameOf others entries).flatMap fun pair =>
          (modify pair.2 pair.1).map (Revision.reversed ∘ Change.revision) := by
    refine List.flatMap_congr fun pair mem => reverses pair.1 pair.2 ?_
    exact nameOf_named (mem_paired_iff.mp mem).2
  rw [sides]
  refine ((perm_paired distinct distinctOthers).flatMap_right _).trans ?_
  rw [List.flatMap_map]
  exact .refl _

theorem revisions_modifyProperty {existing p : Property} (same : existing.name = p.name) :
    (modifyProperty existing p).map Change.revision =
      (modifyProperty p existing).map (Revision.reversed ∘ Change.revision) := by
  unfold modifyProperty
  by_cases kinds : existing.kind? = p.kind?
  · by_cases descriptions : existing.description = p.description
    · simp [kinds, descriptions]
    · simp [kinds, descriptions, Ne.symm descriptions, updatePropertyDescription, Change.safe,
        Change.revision, Revision.reversed, Change.subjectName?, ChangeSubject.name, same]
  · simp [kinds, Ne.symm kinds, modifyPropertyType, Change.breaking, Change.revision,
      Revision.reversed, Change.subjectName?, ChangeSubject.name, same]

theorem revisions_modifyReference {existing r : Reference} (same : existing.name = r.name) :
    (modifyReference existing r).map Change.revision =
      (modifyReference r existing).map (Revision.reversed ∘ Change.revision) := by
  unfold modifyReference
  by_cases descriptions : existing.description = r.description
  · simp [descriptions]
  · simp [descriptions, Ne.symm descriptions, updateReferenceDescription, Change.safe,
      Change.revision, Revision.reversed, Change.subjectName?, ChangeSubject.name, same]

theorem revisions_descriptionChanges :
    (descriptionChanges current target).map Change.revision =
      (descriptionChanges target current).map (Revision.reversed ∘ Change.revision) := by
  unfold descriptionChanges
  by_cases same : current.description = target.description
  · simp [same]
  · simp [same, Ne.symm same, Change.safe, Change.revision, Revision.reversed,
      Change.subjectName?]

/-- Numbers of replicas are revised in both directions when both schemas set one. -/
theorem revisions_replicationChanges (set : current.replication.factor.isSome)
    (setTarget : target.replication.factor.isSome) :
    (replicationChanges current target).map Change.revision =
      (replicationChanges target current).map (Revision.reversed ∘ Change.revision) := by
  obtain ⟨before, hasBefore⟩ := Option.isSome_iff_exists.mp set
  obtain ⟨after, hasAfter⟩ := Option.isSome_iff_exists.mp setTarget
  simp only [replicationChanges, hasBefore, hasAfter]
  by_cases same : before = after
  · simp [same]
  · simp [same, Ne.symm same, Change.safe, Change.revision, Revision.reversed,
      Change.subjectName?]

theorem revisions_tenantChanges :
    (tenantChanges current target).map Change.revision =
      (tenantChanges target current).map (Revision.reversed ∘ Change.revision) := by
  by_cases enabled : current.multiTenancy.enabled = target.multiTenancy.enabled
  · by_cases settings : SettingsDiffer current.multiTenancy target.multiTenancy
    · have back : SettingsDiffer target.multiTenancy current.multiTenancy :=
        settings.imp Ne.symm Ne.symm
      unfold SettingsDiffer at settings back
      rw [tenantChanges, if_neg (not_not.mpr enabled), if_pos settings, tenantChanges,
        if_neg (not_not.mpr enabled.symm), if_pos back]
      rfl
    · have same := eq_of_not_settingsDiffer enabled settings
      rw [tenantChanges_eq_nil same, tenantChanges_eq_nil same.symm]
      rfl
  · rw [tenantChanges, if_pos enabled, tenantChanges, if_pos (Ne.symm enabled)]
    rfl

/-! ### Whole plans -/

/-- What a block revises, the block of the plan back revises in reverse. -/
theorem perm_revisions_block (unique : current.nameClashes = [])
    (uniqueTarget : target.nameClashes = []) {kind : ChangeKind} (replaces : kind.Replaces) :
    ((blockChanges current target kind.block).map Change.revision).Perm
      ((blockChanges target current kind.block).map (Revision.reversed ∘ Change.revision)) := by
  have properties := perm_revisions_paired (Collection.nodup_properties uniqueTarget)
    (Collection.nodup_properties unique) fun _ _ => revisions_modifyProperty
  have references := perm_revisions_paired (Collection.nodup_references uniqueTarget)
    (Collection.nodup_references unique) fun _ _ => revisions_modifyReference
  cases kind with
  | modifyPropertyType => exact properties
  | updatePropertyDescription => exact properties
  | updateReferenceDescription => exact references
  | updateDescription => exact .of_eq revisions_descriptionChanges
  | updateMultiTenancy => exact .of_eq revisions_tenantChanges
  | addProperty | removeProperty | addReference | removeReference | addVector | removeVector
  | updateReplication => exact replaces.elim

/-- The revisions of a kind are found in its block. -/
theorem revisions_toReach (kind : ChangeKind) :
    (Plan.toReach (some current) target).revisions kind =
      ((blockChanges current target kind.block).map Change.revision).filter (·.kind == kind) := by
  rw [Plan.revisions, Plan.toReach, changes, filter_kind_block, List.filter_map]
  rfl

/-- Revisions that reverse each other in a block do so kind by kind. -/
theorem perm_revisions {kind : ChangeKind}
    (block : ((blockChanges current target kind.block).map Change.revision).Perm
      ((blockChanges target current kind.block).map (Revision.reversed ∘ Change.revision))) :
    ((Plan.toReach (some current) target).revisions kind).Perm
      (((Plan.toReach (some target) current).revisions kind).map Revision.reversed) := by
  rw [revisions_toReach, revisions_toReach]
  refine (block.filter _).trans (.of_eq ?_)
  rw [← List.map_map, List.filter_map]
  rfl

/-- **A rollback is the reverse of the plan.** What a plan adds, the plan back removes, family
by family and in the same order, names repeating or not. Between schemas without repeated names
the two plans also replace values in the same places, with the old and the new value exchanged
and the same verdict. Numbers of replicas are replaced so when both schemas set one. -/
theorem rollback (current target : Collection) :
    let forth := Plan.toReach (some current) target
    let back := Plan.toReach (some target) current
    (forth.subjects .addProperty = back.subjects .removeProperty ∧
      forth.subjects .addReference = back.subjects .removeReference ∧
      forth.subjects .addVector = back.subjects .removeVector) ∧
    (current.nameClashes = [] → target.nameClashes = [] →
      (∀ kind : ChangeKind, kind.Replaces →
        (forth.revisions kind).Perm ((back.revisions kind).map Revision.reversed)) ∧
      (current.replication.factor.isSome → target.replication.factor.isSome →
        (forth.revisions .updateReplication).Perm
          ((back.revisions .updateReplication).map Revision.reversed))) := by
  refine ⟨subjects_eq_subjects, fun unique uniqueTarget => ⟨fun kind replaces => ?_, ?_⟩⟩
  · exact perm_revisions (perm_revisions_block unique uniqueTarget replaces)
  · intro set setTarget
    exact perm_revisions (.of_eq (revisions_replicationChanges set setTarget))

/-! ### A harbor that is rebuilt -/

def harbor : Collection where
  name := "Harbor"
  description := some "Berths and ships"
  properties :=
    [.ofKind "berth" .int, { name := "depth", kinds := [.number], description := some "in feet" },
      .ofKind "crane" .text]
  references := [{ name := "owner", target := "Firm", description := some "who runs it" }]
  replication := { factor := some 1 }
  multiTenancy := { autoTenantCreation := some true }

def harborRebuilt : Collection where
  name := "Harbor"
  properties :=
    [.ofKind "lock" .boolean,
      { name := "depth", kinds := [.number], description := some "in meters" },
      .ofKind "berth" .text]
  references := [{ name := "owner", target := "City" }]
  vectors := [.selfProvided "aerial"]
  replication := { factor := some 3 }
  multiTenancy := { autoTenantActivation := some true }

/-- The berths get a new type in both directions, and the lock that was added goes. -/
theorem rollback_harbor :
    harbor.nameClashes = [] ∧ harborRebuilt.nameClashes = [] ∧
      let back := Plan.toReach (some harborRebuilt) harbor
      back.subjects .removeProperty = [.property (.ofKind "lock" .boolean)] ∧
      (back.revisions .modifyPropertyType).map Revision.reversed =
        [⟨.modifyPropertyType, some "berth", some (.array [.string "int"]),
          some (.array [.string "text"]), false⟩] ∧
      (back.revisions .updateReplication).map Revision.reversed =
        [⟨.updateReplication, none, some (.nat 1), some (.nat 3), true⟩] := by
  have unique : harbor.nameClashes = [] := by decide
  have uniqueRebuilt : harborRebuilt.nameClashes = [] := by decide
  obtain ⟨⟨removed, -⟩, replaced⟩ := rollback harbor harborRebuilt
  obtain ⟨revised, replicas⟩ := replaced unique uniqueRebuilt
  have added : (Plan.toReach (some harbor) harborRebuilt).subjects .addProperty =
      [.property (.ofKind "lock" .boolean)] := by decide
  have types : (Plan.toReach (some harbor) harborRebuilt).revisions .modifyPropertyType =
      [⟨.modifyPropertyType, some "berth", some (.array [.string "int"]),
        some (.array [.string "text"]), false⟩] := by decide
  have factors : (Plan.toReach (some harbor) harborRebuilt).revisions .updateReplication =
      [⟨.updateReplication, none, some (.nat 1), some (.nat 3), true⟩] := by decide
  have typesBack := revised .modifyPropertyType trivial
  have factorsBack := replicas rfl rfl
  rw [types, List.singleton_perm] at typesBack
  rw [factors, List.singleton_perm] at factorsBack
  exact ⟨unique, uniqueRebuilt, removed.symm.trans added, typesBack.symm, factorsBack.symm⟩

end Migration

end CollectionSchema
