import CollectionSchema.Proofs.Names.Unique
import CollectionSchema.Proofs.Traversal
import CollectionSchema.Synthesis.Basic

/-!
Successful synthesis, as a relation between what is described and what is built.

Each step of synthesis gets one lemma that says exactly when it succeeds and with
what: `settleKind_eq_ok_iff`, `propertyOf_eq_ok_iff` and
`nestedPropertiesOf_eq_ok_iff` for the property of a field, `memberOf_eq_ok_iff`
for a field of the model, `applySettings_eq_ok_iff` for the settings of the
collection. `synthesize_declares` puts them together for models without hooks:
`Declares` relates the fields of a model, family by family and in declaration
order, to the properties, references and vectors of its schema.

`Catalog.entered_induction` is the induction that follows nested types: it goes
from a list of types under way to the lists with one more type on top.
-/

namespace CollectionSchema

/-! ### Induction through a catalog -/

/-- Induction on the types under way: what holds of a list of entered types when
it holds of every list with one more type on top, holds of every list. -/
theorem Catalog.entered_induction {n : Nat} (types : Catalog n) {motive : List String → Prop}
    (step : ∀ entered,
      (∀ id, (types id).typeName ∉ entered → motive ((types id).typeName :: entered)) →
        motive entered)
    (entered : List String) : motive entered := by
  induction h : types.unentered entered using Nat.strongRecOn generalizing entered with
  | _ left ih =>
      subst h
      exact step entered fun id fresh => ih _ (types.unentered_cons_lt fresh) _ rfl

/-! ### The settings of a collection -/

/-- A setting of a collection: -1, or an integer that fits in 32 bits. -/
def SettingFits (value : Int) : Prop :=
  value = -1 ∨ 0 ≤ value ∧ value ≤ 4294967295

/-- The setting that an integer in range stands for. -/
def setting? (value : Int) : Option UInt32 :=
  if value = leftToServer then none else some (UInt32.ofNat value.toNat)

namespace Synthesis

theorem validSetting_iff {value : Int} : validSetting value = true ↔ SettingFits value := by
  simp only [validSetting, Bool.or_eq_true, beq_iff_eq, Bool.and_eq_true, decide_eq_true_eq]
  rfl

theorem checkSetting_eq_nil_iff {path : String} {value : Int} :
    checkSetting path value = [] ↔ SettingFits value := by
  rw [← validSetting_iff, checkSetting]
  cases validSetting value <;> simp

theorem checkSettings_eq_ok_iff {d : CollectionDirective} :
    checkSettings d = .ok () ↔
      SettingFits d.replicationFactor ∧ SettingFits d.sharding.desiredCount ∧
        SettingFits d.sharding.virtualPerPhysical := by
  have clean : checkSettings d = .ok () ↔ d.violations = [] := by
    unfold checkSettings
    cases d.violations <;> simp
  rw [clean, CollectionDirective.violations, List.append_eq_nil_iff, List.append_eq_nil_iff,
    checkSetting_eq_nil_iff, checkSetting_eq_nil_iff, checkSetting_eq_nil_iff, and_assoc]

theorem settingOf_eq_ok_iff {setting : String} {value : Int} {x : Option UInt32} :
    settingOf setting value = .ok x ↔ SettingFits value ∧ x = setting? value := by
  unfold settingOf setting? SettingFits
  by_cases left : value = -1
  · simp [left, leftToServer, eq_comm]
  · by_cases fits : 0 ≤ value ∧ value ≤ 4294967295
    · simp [left, fits, leftToServer, maxSetting, eq_comm]
    · simp [left, fits, leftToServer, maxSetting]

/-- A collection with the settings of a directive whose integers are in range. -/
def withSettings (d : CollectionDirective) (c : Collection) : Collection :=
  let sharding : Sharding :=
    ⟨setting? d.sharding.desiredCount, setting? d.sharding.virtualPerPhysical, d.sharding.key⟩
  { c with
    replication := ⟨setting? d.replicationFactor, d.asyncReplication, d.deletionStrategy⟩
    sharding := if sharding.isEmpty then none else some sharding
    multiTenancy := ⟨d.multiTenancy, d.autoTenantCreation, d.autoTenantActivation⟩
    invertedIndex := d.invertedIndex }

/-- The integers that pass the check of the settings are those that can be narrowed. -/
theorem applySettings_eq_ok_iff {d : CollectionDirective} {c c' : Collection} :
    applySettings d c = .ok c' ↔ checkSettings d = .ok () ∧ c' = withSettings d c := by
  simp only [applySettings, bind_eq_ok_iff, pure_eq_ok_iff, settingOf_eq_ok_iff,
    checkSettings_eq_ok_iff]
  constructor
  · rintro ⟨_, ⟨factor, rfl⟩, _, ⟨desired, rfl⟩, _, ⟨virtual, rfl⟩, rfl⟩
    exact ⟨⟨factor, desired, virtual⟩, rfl⟩
  · rintro ⟨⟨factor, desired, virtual⟩, rfl⟩
    exact ⟨_, ⟨factor, rfl⟩, _, ⟨desired, rfl⟩, _, ⟨virtual, rfl⟩, rfl⟩

end Synthesis

theorem Field.becomesProperty_iff {n : Nat} {f : Field n} :
    f.becomesProperty ↔ f.vector = none ∧ f.reference = none := by
  simp [Field.becomesProperty]

namespace Synthesis

variable {n : Nat} {types : Catalog n} {maxDepth : Nat} {typeName : String}
  {entered : List String} {f : Field n}

/-! ### The property of a field -/

theorem settleKind_eq_ok_iff {kind : DataKind} :
    settleKind types typeName f = .ok kind ↔
      f.kind? = some kind ∧ (f.property.tokenization.isSome → kind.isText) := by
  unfold settleKind
  cases f.kind? with
  | none => simp
  | some found =>
      have refused : (f.property.tokenization.isSome && !found.isText) = true ↔
          ¬ (f.property.tokenization.isSome → found.isText) := by
        simp
      dsimp only
      by_cases suits : f.property.tokenization.isSome → found.isText
      · rw [if_neg fun h => refused.mp h suits]
        simp only [Except.ok.injEq, Option.some.injEq, iff_self_and]
        rintro rfl
        exact suits
      · rw [if_pos (refused.mpr suits)]
        simp only [reduceCtorEq, Option.some.injEq, false_iff, not_and]
        rintro rfl
        exact suits

@[simp]
theorem describe_kind? (f : Field n) (kind : DataKind) (nested : List Property) :
    (describe f kind nested).kind? = some kind := rfl

@[simp]
theorem describe_nested (f : Field n) (kind : DataKind) (nested : List Property) :
    (describe f kind nested).nested = nested := rfl

theorem uniqueNested_eq_ok_iff {parent : String} {found nested : List Property} :
    uniqueNested parent found = .ok nested ↔
      nested = found ∧ (found.map (·.name)).Nodup := by
  unfold uniqueNested
  cases h : repeated (found.map (·.name)) with
  | nil => simp [repeated_eq_nil_iff.mp h, eq_comm]
  | cons name rest =>
      have clash : ¬ (found.map (·.name)).Nodup := fun nodup => by
        simp [repeated_eq_nil_iff.mpr nodup] at h
      simp [clash]

/-- A field has a property just when it has a kind that suits it and, for an
object kind, its nested type has properties. -/
theorem propertyOf_eq_ok_iff {p : Property} :
    propertyOf maxDepth types typeName entered f = .ok p ↔
      ∃ kind nested, settleKind types typeName f = .ok kind ∧ p = describe f kind nested ∧
        if kind.isObject then nestedPropertiesOf maxDepth types kind entered f = .ok nested
        else nested = [] := by
  rw [propertyOf, bind_eq_ok_iff]
  refine exists_congr fun kind => ?_
  cases object : kind.isObject with
  | true =>
      simp only [if_true, bind_eq_ok_iff]
      constructor
      · rintro ⟨settled, nested, inner, done⟩
        exact ⟨nested, settled, (Except.ok.inj done).symm, inner⟩
      · rintro ⟨nested, settled, rfl, inner⟩
        exact ⟨settled, nested, inner, rfl⟩
  | false =>
      simp only [Bool.false_eq_true, if_false]
      constructor
      · rintro ⟨settled, done⟩
        exact ⟨[], settled, (Except.ok.inj done).symm, rfl⟩
      · rintro ⟨nested, settled, rfl, rfl⟩
        exact ⟨settled, rfl⟩

/-- The properties of a nested type: none for a type under way, and else those of
its fields, with distinct names and no deeper than allowed. -/
theorem nestedPropertiesOf_eq_ok_iff {kind : DataKind} {nested : List Property} :
    nestedPropertiesOf maxDepth types kind entered f = .ok nested ↔
      ∃ id, f.valueType.nested? = some id ∧
        if (types id).typeName ∈ entered then nested = []
        else entered.length < maxDepth ∧ (nested.map (·.name)).Nodup ∧
          List.Forall₂
            (fun g p => propertyOf maxDepth types (types id).model.typeName
              ((types id).typeName :: entered) g = .ok p)
            (types id).model.propertyFields nested := by
  rw [nestedPropertiesOf]
  cases f.valueType.nested? with
  | none => simp
  | some id =>
      simp only [Option.some.injEq, exists_eq_left']
      by_cases under : (types id).typeName ∈ entered
      · simp [under, eq_comm]
      · simp only [under, dite_false, if_false]
        by_cases deep : maxDepth ≤ entered.length
        · simp [deep, Nat.not_lt.mpr deep]
        · simp only [deep, if_false, bind_eq_ok_iff, mapM_eq_ok_iff, uniqueNested_eq_ok_iff,
            Nat.not_le.mp deep, true_and]
          constructor
          · rintro ⟨found, built, rfl, nodup⟩
            exact ⟨nodup, built⟩
          · rintro ⟨nodup, built⟩
            exact ⟨nested, built, rfl, nodup⟩

/-! ### The fields of a model -/

/-- The fields that become vectors, with their directives. -/
def vectorDirectives (fields : List (Field n)) : List (Field n × VectorDirective) :=
  fields.filterMap fun f => f.vector.map (f, ·)

/-- The fields that become references, with their directives. -/
def referenceDirectives (fields : List (Field n)) : List (Field n × ReferenceDirective) :=
  fields.filterMap fun f => if f.vector.isSome then none else f.reference.map (f, ·)

theorem memberOf_of_property (property : f.becomesProperty) :
    memberOf maxDepth types typeName f =
      (propertyOf maxDepth types typeName [] f).map .property := by
  obtain ⟨vector, reference⟩ := Field.becomesProperty_iff.mp property
  rw [memberOf, vector, reference]

/-- A field is refused for having two directives, or for its property. -/
theorem memberOf_eq_error_iff {e : SynthesisError} :
    memberOf maxDepth types typeName f = .error e ↔
      f.vector.isSome ∧ f.reference.isSome ∧ .vectorAndReference f.ident = e ∨
        f.becomesProperty ∧ propertyOf maxDepth types typeName [] f = .error e := by
  rw [Field.becomesProperty_iff]
  unfold memberOf
  cases f.vector <;> cases f.reference <;> simp [map_eq_error_iff]

/-- What a field becomes: a vector or a reference where a directive says so, and
else a property. A field with both directives becomes nothing. -/
theorem memberOf_eq_ok_iff {member : Member n} :
    memberOf maxDepth types typeName f = .ok member ↔
      (∃ d, f.vector = some d ∧ f.reference = none ∧ member = .vector f d) ∨
        (∃ d, f.vector = none ∧ f.reference = some d ∧ member = .reference (referenceOf f d)) ∨
          (f.vector = none ∧ f.reference = none ∧
            ∃ p, propertyOf maxDepth types typeName [] f = .ok p ∧ member = .property p) := by
  unfold memberOf
  cases f.vector with
  | none =>
      cases f.reference with
      | none =>
          simp only [map_eq_ok_iff, reduceCtorEq, false_and, exists_false, true_and, false_or]
          exact exists_congr fun p => and_congr_right fun _ => eq_comm
      | some d => simp [eq_comm]
  | some d =>
      cases f.reference with
      | none => simp [eq_comm]
      | some _ => simp

theorem requireUnique_eq_ok_iff {c : Collection} :
    requireUnique c = .ok () ↔ c.nameClashes = [] := by
  unfold requireUnique
  cases c.nameClashes <;> simp

/-- A vector without a hook is what its directive says it is. -/
theorem vectorOf_eq_ok_iff {config : SynthesisConfig} {lookup : HookLookup} {c : Collection}
    {d : VectorDirective} {v : NamedVector} (unhooked : d.hook = none) :
    vectorOf config lookup c f d = .ok v ↔
      ∃ vectorizer, vectorizerOf (f.vectorName d) d = .ok vectorizer ∧
        checkSources (f.vectorName d) c vectorizer = .ok () ∧
          v = ⟨f.vectorName d, vectorizer, indexOf config d⟩ := by
  simp only [vectorOf, bind_eq_ok_iff, customizeVector, unhooked, Except.ok.injEq]
  refine exists_congr fun vectorizer => and_congr_right fun _ => ?_
  constructor
  · rintro ⟨_, checked, rfl⟩
    exact ⟨checked, rfl⟩
  · rintro ⟨checked, rfl⟩
    exact ⟨(), checked, rfl⟩

end Synthesis

namespace Model

variable {n : Nat}

/-- Neither the collection nor any of its vectors is customized by a hook. -/
def HookFree (m : Model n) : Prop :=
  m.directive.hook = none ∧ ∀ f ∈ m.fields, ∀ d ∈ f.vector, d.hook = none

instance (m : Model n) : Decidable m.HookFree := by
  unfold HookFree; infer_instance

end Model

namespace Synthesizer

variable {n : Nat}

open Synthesis

/-- `s.Declares types m c`: family by family, and in the order of the fields, the
schema `c` has what the fields of `m` become, with unique names. -/
structure Declares (s : Synthesizer) (types : Catalog n) (m : Model n) (c : Collection) :
    Prop where
  properties :
    List.Forall₂ (fun f p => propertyOf s.config.maxDepth types m.typeName [] f = .ok p)
      m.propertyFields c.properties
  references : c.references = (referenceDirectives m.fields).map fun fd => referenceOf fd.1 fd.2
  vectors :
    List.Forall₂
      (fun fd v =>
        vectorOf s.config (s.lookup m)
          { name := m.collectionName
            description := m.directive.description
            properties := c.properties
            references := c.references }
          fd.1 fd.2 = .ok v)
      (vectorDirectives m.fields) c.vectors
  unique : c.nameClashes = []

end Synthesizer

namespace Synthesis

variable {n : Nat} {types : Catalog n} {maxDepth : Nat} {typeName : String}

/-- The members of some fields, family by family. -/
theorem families_of_members {fields : List (Field n)} {members : List (Member n)}
    (built : List.Forall₂ (fun f member => memberOf maxDepth types typeName f = .ok member)
      fields members) :
    List.Forall₂ (fun f p => propertyOf maxDepth types typeName [] f = .ok p)
        (fields.filter Field.becomesProperty) (properties members) ∧
      references members =
        (referenceDirectives fields).map (fun fd => referenceOf fd.1 fd.2) ∧
      vectorFields members = vectorDirectives fields := by
  induction built with
  | nil => exact ⟨.nil, rfl, rfl⟩
  | @cons f member fields members one _ ih =>
      obtain ⟨ps, rs, vs⟩ := ih
      rcases memberOf_eq_ok_iff.mp one with
        ⟨d, vector, reference, rfl⟩ | ⟨d, vector, reference, rfl⟩ |
          ⟨vector, reference, p, built, rfl⟩
      · have other : ¬ f.becomesProperty := by simp [Field.becomesProperty, vector]
        rw [List.filter_cons_of_neg other]
        simp_all [properties, references, vectorFields, referenceDirectives, vectorDirectives]
      · have other : ¬ f.becomesProperty := by simp [Field.becomesProperty, reference]
        rw [List.filter_cons_of_neg other]
        simp_all [properties, references, vectorFields, referenceDirectives, vectorDirectives]
      · have property : f.becomesProperty := by simp [Field.becomesProperty, vector, reference]
        rw [List.filter_cons_of_pos property]
        refine ⟨.cons built ps, ?_, ?_⟩
        · simp_all [references, referenceDirectives]
        · simp_all [vectorFields, vectorDirectives]

end Synthesis

namespace Synthesizer

variable {n : Nat} {s : Synthesizer} {types : Catalog n} {m : Model n} {c : Collection}

open Synthesis

/-- **What is declared is what is built**: before the hook of the collection, a
schema has exactly what the fields of its model become. -/
theorem declared_declares (built : s.declared types m = .ok c) : s.Declares types m c := by
  simp only [declared, bind_eq_ok_iff, mapM_eq_ok_iff] at built
  obtain ⟨_, -, members, hmembers, _, -, vectors, hvectors, _, unique, applied⟩ := built
  obtain ⟨-, rfl⟩ := applySettings_eq_ok_iff.mp applied
  obtain ⟨hproperties, hreferences, hfields⟩ := families_of_members hmembers
  rw [hfields] at hvectors
  exact
    { properties := hproperties
      references := hreferences
      vectors := hvectors
      unique := requireUnique_eq_ok_iff.mp unique }

/-- Without hooks, synthesis yields what is declared. -/
theorem synthesize_declares (unhooked : m.directive.hook = none)
    (built : s.synthesize types m = .ok c) : s.Declares types m c := by
  simp only [synthesize, bind_eq_ok_iff, customizeCollection, unhooked, Except.ok.injEq] at built
  obtain ⟨_, declared, rfl⟩ := built
  exact declared_declares declared

end Synthesizer

end CollectionSchema
