import CollectionSchema.Migration.Json
import CollectionSchema.Proofs.Documents.Schema
import CollectionSchema.Proofs.Migration.Families

/-!
Changes and their documents.

The values that a change replaces may be any documents, and a document does not tell a value
that is `null` from one that is unset. So a change is read back without such values, and it is
the same change exactly when it has none.

* `Change.ofJson?_toJson_eq`: what is read from the document of any change.
* `Migration.nullFree_of_mem`: plans put `null` for no value.
* `Migration.changes_persist`: changes are kept exactly without `null`, and so are all changes
  of all plans.
-/

namespace CollectionSchema

open Json

/-! ### The document of a change -/

instance : LawfulEnumeration ChangeKind := ⟨fun kind => by cases kind <;> rfl⟩

namespace ChangeSubject

/-- A tag and the document of the member. -/
theorem trim_tagged {kind : String} {descriptor : Json} (trim : descriptor.Trim) :
    (Json.object [("kind", .string kind), ("descriptor", descriptor)]).Trim := by
  change (record [("kind", some (.string kind)), ("descriptor", some descriptor)]).Trim
  simp [trim_record_iff, omittedLists, trim]

theorem keeps (s : ChangeSubject) : Keeps toJson ofJson? s := by
  cases s with
  | property p =>
      obtain ⟨back, trim⟩ := Property.keeps p
      constructor
      · simp [toJson, ofJson?, fields?, word?, Members.required, Table.get?_cons, back]
      · exact trim_tagged trim
  | reference r =>
      obtain ⟨back, trim⟩ := Reference.keeps r
      constructor
      · simp [toJson, ofJson?, fields?, word?, Members.required, Table.get?_cons, back]
      · exact trim_tagged trim
  | vector v =>
      obtain ⟨back, trim⟩ := NamedVector.keeps v
      constructor
      · simp [toJson, ofJson?, fields?, word?, Members.required, Table.get?_cons, back]
      · exact trim_tagged trim

end ChangeSubject

namespace Json

/-- A value that is not `null`. -/
def unlessNull (value : Option Json) : Option Json :=
  value.filter (· ≠ .null)

theorem unlessNull_eq_self_iff {value : Option Json} :
    unlessNull value = value ↔ value ≠ some .null := by
  cases value with
  | none => simp [unlessNull]
  | some j => simp [unlessNull, Option.filter_eq_some_iff]

/-- A member that may be any document is unset when it is missing or `null`. -/
@[simp]
theorem optional_cons_unlessNull {key : String} {value : Option Json}
    {rest : List (String × Option Json)} (absent : key ∉ rest.map (·.1)) :
    (setMembers ((key, value) :: rest)).optional key some = some (unlessNull value) := by
  cases value with
  | none => exact optional_cons_none absent
  | some j =>
      by_cases isNull : j = .null
      · subst isNull
        rw [Members.optional, get?_setMembers_cons_self absent]
        rfl
      · rw [optional_cons_some isNull, unlessNull, Option.filter_some, if_pos (by simpa)]
        rfl

end Json

namespace Change

/-- The change with no value in the place of `null`. -/
def withoutNull (ch : Change) : Change :=
  { ch with oldValue := unlessNull ch.oldValue, newValue := unlessNull ch.newValue }

/-- Neither the old nor the new value is `null`; both may be unset. -/
def NullFree (ch : Change) : Prop :=
  ch.oldValue ≠ some .null ∧ ch.newValue ≠ some .null

theorem withoutNull_eq_self_iff {ch : Change} : ch.withoutNull = ch ↔ ch.NullFree := by
  rw [NullFree, ← unlessNull_eq_self_iff, ← unlessNull_eq_self_iff]
  cases ch
  simp [withoutNull]

/-- Every change can be read back, without the values that are `null`. -/
theorem ofJson?_toJson_eq (ch : Change) : ofJson? ch.toJson = some ch.withoutNull := by
  have kind := (keeps_word ch.kind).read_write
  simp [toJson, ofJson?, kind, ChangeSubject.keeps, withoutNull]

theorem ofJson?_toJson_iff {ch : Change} : ofJson? ch.toJson = some ch ↔ ch.NullFree := by
  rw [ofJson?_toJson_eq, Option.some.injEq, withoutNull_eq_self_iff]

end Change

/-! ### The changes of plans -/

namespace Migration

theorem nullFree_addProperty (p : Property) : (addProperty p).NullFree := by
  simp [Change.NullFree, addProperty, Change.safe, kindsValue, list]

theorem nullFree_addReference (r : Reference) : (addReference r).NullFree := by
  simp [Change.NullFree, addReference, Change.safe]

theorem nullFree_addVector (v : NamedVector) : (addVector v).NullFree := by
  simp [Change.NullFree, addVector, Change.safe]

section Families

variable {current target : Collection} {ch : Change}

theorem nullFree_descriptionChanges (mem : ch ∈ descriptionChanges current target) :
    ch.NullFree := by
  unfold descriptionChanges at mem
  split_ifs at mem
  · rw [List.mem_singleton.mp mem]
    simp [Change.NullFree, Change.safe]
  · cases mem

theorem nullFree_replicationChanges (mem : ch ∈ replicationChanges current target) :
    ch.NullFree := by
  unfold replicationChanges at mem
  split at mem
  · cases mem
  · split_ifs at mem
    · rw [List.mem_singleton.mp mem]
      simp [Change.NullFree, Change.safe, nat, int]
    · cases mem

/-- Settings on automatic tenants that are unset are `null` inside the values, which are objects
themselves. -/
theorem nullFree_tenantChanges (mem : ch ∈ tenantChanges current target) : ch.NullFree := by
  unfold tenantChanges at mem
  dsimp only at mem
  split at mem
  · rw [List.mem_singleton.mp mem]
    simp [Change.NullFree, Change.breaking]
  · split at mem
    · rw [List.mem_singleton.mp mem]
      simp [Change.NullFree, Change.safe, tenantSettings]
    · cases mem

/-- In no part of a plan a value is `null`. -/
theorem nullFree_familyChanges {family : ChangeFamily}
    (mem : ch ∈ familyChanges current target family) : ch.NullFree := by
  cases family with
  | description => exact nullFree_descriptionChanges mem
  | properties =>
      refine propertyChanges_cases nullFree_addProperty ?_ ?_ ?_ mem
      · simp [Change.NullFree, removeProperty, Change.breaking, kindsValue, list]
      · simp [Change.NullFree, modifyPropertyType, Change.breaking, kindsValue, list]
      · simp [Change.NullFree, updatePropertyDescription, Change.safe]
  | references =>
      refine referenceChanges_cases nullFree_addReference ?_ ?_ mem
      · simp [Change.NullFree, removeReference, Change.breaking]
      · simp [Change.NullFree, updateReferenceDescription, Change.safe]
  | vectors =>
      refine vectorChanges_cases nullFree_addVector ?_ mem
      simp [Change.NullFree, removeVector, Change.breaking]
  | replication => exact nullFree_replicationChanges mem
  | tenants => exact nullFree_tenantChanges mem

end Families

/-- In no plan a value is `null`. -/
theorem nullFree_of_mem {current : Option Collection} {target : Collection} {ch : Change}
    (mem : ch ∈ changes current target) : ch.NullFree := by
  cases current with
  | none =>
      simp only [changes, creation, List.mem_append, List.mem_map] at mem
      rcases mem with (⟨p, -, rfl⟩ | ⟨r, -, rfl⟩) | ⟨v, -, rfl⟩
      · exact nullFree_addProperty p
      · exact nullFree_addReference r
      · exact nullFree_addVector v
  | some current =>
      obtain ⟨family, mem⟩ := mem_transition_iff.mp mem
      exact nullFree_familyChanges mem

/-- **Plans survive being written down.** A change is read back from its document as it was,
its member and its values included, exactly if neither of its values is `null`. No change of a
plan, for a new collection or an existing one, has such a value, so all of them are read
back. -/
theorem changes_persist :
    (∀ ch : Change, Change.ofJson? ch.toJson = some ch ↔
      ch.oldValue ≠ some .null ∧ ch.newValue ≠ some .null) ∧
    ∀ (current : Option Collection) (target : Collection), ∀ ch ∈ changes current target,
      (ch.oldValue ≠ some .null ∧ ch.newValue ≠ some .null) ∧
        Change.ofJson? ch.toJson = some ch := by
  refine ⟨fun ch => Change.ofJson?_toJson_iff, fun current target ch mem => ?_⟩
  have nullFree := nullFree_of_mem mem
  exact ⟨nullFree, Change.ofJson?_toJson_iff.mpr nullFree⟩

/-! ### A lodge whose tenants come by themselves -/

def lodge : Collection where
  name := "Lodge"

def lodgeOpened : Collection where
  name := "Lodge"
  multiTenancy := { autoTenantCreation := some true }

theorem changes_persist_lodge :
    let opening : Change := .safe .updateMultiTenancy
      "Update automatic tenant creation and activation"
      (some (.object [("autoTenantCreation", .null), ("autoTenantActivation", .null)]))
      (some (.object [("autoTenantCreation", .bool true), ("autoTenantActivation", .null)]))
    opening ∈ changes (some lodge) lodgeOpened ∧ Change.ofJson? opening.toJson = some opening ∧
      Change.ofJson? { opening with oldValue := some .null }.toJson ≠
        some { opening with oldValue := some .null } := by
  intro opening
  obtain ⟨kept, planned⟩ := changes_persist
  have mem : opening ∈ changes (some lodge) lodgeOpened := by decide
  exact ⟨mem, (planned _ _ opening mem).2, fun back => ((kept _).mp back).1 rfl⟩

end Migration

end CollectionSchema
