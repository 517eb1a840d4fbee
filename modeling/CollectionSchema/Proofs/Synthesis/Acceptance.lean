import CollectionSchema.Proofs.Synthesis.Unfolding

/-!
Which models have a schema.

`Model.WellFormed` says what is asked of a model, rule by rule and without reference to
the order in which synthesis checks it: the settings of the collection, the directives of
a field, each field that is met in the unfolding, the names of each level, and the
parameters, sources and names of the vectors.

* `exists_propertyOf_iff`: a field has a property exactly when it fits where it is met and
  so do the fields it opens.
* `exists_synthesize_iff`: a model without hooks has a schema exactly when it is
  well-formed.
-/

namespace CollectionSchema

variable {n : Nat} {types : Catalog n} {entered : List String} {f : Field n}

/-! ### Well-formed models -/

/-- A field that can become a property where the types `entered` are under way: it has a
kind that suits its tokenization, a nested type if it is an object, and it opens a type
only where fewer than `maxDepth` have been entered. -/
structure Field.Fits (maxDepth : Nat) (types : Catalog n) (entered : List String)
    (f : Field n) : Prop where
  kind : ∃ kind, f.kind? = some kind ∧ (f.property.tokenization.isSome → kind.isText) ∧
    (kind.isObject → f.valueType.nested?.isSome)
  depth : ∀ id, f.opens? types entered = some id → entered.length < maxDepth

/-- What a vector is made from: the image module reads image fields and texts, a
self-provided vector nothing. -/
def VectorDirective.reads (d : VectorDirective) : List String :=
  match d.vectorizer with
  | .selfProvided => []
  | .clip => d.imageFields ++ d.sources
  | .openAi | .cohere | .transformers | .ollama | .centroid => d.sources

namespace Model

/-- What a vector of a model may read: references for the centroid module, properties for
all others. -/
def readable (m : Model n) (d : VectorDirective) : List String :=
  if d.vectorizer = .centroid then Conformance.referenceNames m
  else m.propertyFields.map Field.propertyName

/-- The collection of some members, before it gets its vectors. -/
def withMembers (m : Model n) (members : List (Member n)) : Collection where
  name := m.collectionName
  description := m.directive.description
  properties := Synthesis.properties members
  references := Synthesis.references members

/-- `m.WellFormed config types`: nothing is wrong with a model without hooks. -/
structure WellFormed (config : SynthesisConfig) (types : Catalog n) (m : Model n) : Prop where
  replicationFactor : SettingFits m.directive.replicationFactor
  desiredCount : SettingFits m.directive.sharding.desiredCount
  virtualPerPhysical : SettingFits m.directive.sharding.virtualPerPhysical
  /-- No field is to become a vector and a reference. -/
  directives : ∀ f ∈ m.fields, f.vector = none ∨ f.reference = none
  fields : ∀ entered f, m.Reaches types entered f → f.Fits config.maxDepth types entered
  /-- The fields of each type that is opened have distinct names. -/
  levels : ∀ entered f id, m.Reaches types entered f → f.opens? types entered = some id →
    ((types id).model.propertyFields.map Field.propertyName).Nodup
  /-- Properties and references have distinct names, in one scope. -/
  members : (m.propertyFields.map Field.propertyName ++ Conformance.referenceNames m).Nodup
  parameters : ∀ fd ∈ Synthesis.vectorDirectives m.fields, fd.2.ParametersFit
  sources : ∀ fd ∈ Synthesis.vectorDirectives m.fields,
    ∀ source ∈ fd.2.reads, source ∈ m.readable fd.2
  vectors : (Conformance.vectorNames m).Nodup

end Model

namespace Synthesis

/-! ### Sources -/

theorem sources_made (d : VectorDirective) : d.made.sources = d.reads := by
  unfold VectorDirective.made VectorDirective.reads
  cases d.vectorizer <;> rfl

theorem knownSources_made {c : Collection} (d : VectorDirective) :
    knownSources c d.made =
      if d.vectorizer = .centroid then c.references.map (·.name)
      else c.properties.map (·.name) := by
  unfold VectorDirective.made
  cases d.vectorizer <;> rfl

theorem checkSources_eq_ok_iff {name : String} {c : Collection} {v : Vectorizer} :
    checkSources name c v = .ok () ↔ ∀ source ∈ v.sources, source ∈ knownSources c v := by
  unfold checkSources
  cases missing : v.sources.find? fun source => !(knownSources c v).contains source with
  | none => simpa using missing
  | some source =>
      have unknown := List.find?_some missing
      have mem := List.mem_of_find?_eq_some missing
      simp only [reduceCtorEq, false_iff, not_forall]
      exact ⟨source, mem, by simpa using unknown⟩

/-- With the names of the members known, what a vector reads is in the collection when
it is readable in the model. -/
theorem checkSources_made_iff {m : Model n} {name : String} {base : Collection}
    {d : VectorDirective}
    (properties : base.properties.map (·.name) = m.propertyFields.map Field.propertyName)
    (references : base.references.map (·.name) = Conformance.referenceNames m) :
    checkSources name base d.made = .ok () ↔ ∀ source ∈ d.reads, source ∈ m.readable d := by
  rw [checkSources_eq_ok_iff, sources_made, knownSources_made, properties, references,
    Model.readable]

/-! ### The property of a field -/

variable {maxDepth : Nat} {typeName : String}

/-- **A field has a property** exactly when it fits where it is met, and the fields of the
type it opens have distinct names and properties. -/
theorem exists_propertyOf_iff :
    (∃ p, propertyOf maxDepth types typeName entered f = .ok p) ↔
      f.Fits maxDepth types entered ∧ ∀ id, f.opens? types entered = some id →
        ((types id).model.propertyFields.map Field.propertyName).Nodup ∧
          ∀ g ∈ (types id).model.propertyFields, ∃ q,
            propertyOf maxDepth types (types id).model.typeName
              ((types id).typeName :: entered) g = .ok q := by
  constructor
  · rintro ⟨p, built⟩
    obtain ⟨kind, nested, settled, -, refers, inner⟩ := propertyOf_eq_ok_iff_opens.mp built
    obtain ⟨hasKind, suits⟩ := settleKind_eq_ok_iff.mp settled
    refine ⟨⟨⟨kind, hasKind, suits, refers⟩, fun id opens => ?_⟩, fun id opens => ?_⟩
    · rw [opens] at inner
      exact inner.1
    · rw [opens] at inner
      obtain ⟨-, distinct, fields⟩ := inner
      exact ⟨names_of_propertyOf fields ▸ distinct, exists_forall₂_iff.mp ⟨nested, fields⟩⟩
  · rintro ⟨⟨⟨kind, hasKind, suits, refers⟩, depth⟩, inner⟩
    have settled : settleKind types typeName f = .ok kind :=
      settleKind_eq_ok_iff.mpr ⟨hasKind, suits⟩
    cases opens : f.opens? types entered with
    | none =>
        refine ⟨_, propertyOf_eq_ok_iff_opens.mpr ⟨kind, [], settled, rfl, refers, ?_⟩⟩
        rw [opens]
    | some id =>
        obtain ⟨distinct, each⟩ := inner id opens
        obtain ⟨nested, fields⟩ := exists_forall₂_iff.mpr each
        refine ⟨_, propertyOf_eq_ok_iff_opens.mpr ⟨kind, nested, settled, rfl, refers, ?_⟩⟩
        rw [opens]
        exact ⟨depth id opens, names_of_propertyOf fields ▸ distinct, fields⟩

/-- The fields of a model become members when none has both directives and those without
directives have properties. -/
theorem exists_memberOf_iff :
    (∃ member, memberOf maxDepth types typeName f = .ok member) ↔
      (f.vector = none ∨ f.reference = none) ∧
        (f.becomesProperty → ∃ p, propertyOf maxDepth types typeName [] f = .ok p) := by
  simp only [memberOf_eq_ok_iff, Field.becomesProperty]
  cases f.vector <;> cases f.reference <;> simp

section Members

variable {m : Model n} {members : List (Member n)}
  (built : List.Forall₂ (fun f member => memberOf maxDepth types typeName f = .ok member)
    m.fields members)
include built

theorem propertyNames_withMembers :
    (m.withMembers members).properties.map (·.name) =
      m.propertyFields.map Field.propertyName :=
  names_of_propertyOf (families_of_members built).1

theorem referenceNames_withMembers :
    (m.withMembers members).references.map (·.name) = Conformance.referenceNames m := by
  obtain ⟨-, references, -⟩ := families_of_members built
  rw [Model.withMembers, references, List.map_map]
  exact m.map_name_referenceDirectives

end Members

end Synthesis

/-! ### The schema of a model -/

namespace Synthesizer

open Synthesis

variable {s : Synthesizer} {m : Model n} {c : Collection}

/-- What is checked before anything is built holds of every model with a schema. -/
theorem exists_members_of_synthesize (built : s.synthesize types m = .ok c) :
    checkSettings m.directive = .ok () ∧ ∃ members,
      List.Forall₂ (fun f member => memberOf s.config.maxDepth types m.typeName f = .ok member)
        m.fields members := by
  simp only [synthesize, declared, bind_eq_ok_iff, mapM_eq_ok_iff] at built
  obtain ⟨_, ⟨_, settings, members, built, -⟩, -⟩ := built
  exact ⟨settings, members, built⟩

/-- Every vector of a schema suits its module and reads what it may. -/
theorem Declares.suits (declares : s.Declares types m c) (hookFree : m.HookFree)
    {fd : Field n × VectorDirective} (mem : fd ∈ vectorDirectives m.fields) :
    fd.2.ParametersFit ∧ ∀ source ∈ fd.2.reads, source ∈ m.readable fd.2 := by
  obtain ⟨v, -, built⟩ := exists_of_mem_forall₂ declares.vectors mem
  obtain ⟨suits, known, -⟩ := (vectorOf_eq_ok_iff_made (hookFree.unhooked mem)).mp built
  exact ⟨suits, (checkSources_made_iff declares.propertyNames_eq declares.referenceNames_eq).mp
    known⟩

/-- Every field that is met fits, and opens a type whose fields have distinct names. -/
theorem Declares.fits (declares : s.Declares types m c) (reached : m.Reaches types entered f) :
    f.Fits s.config.maxDepth types entered ∧ ∀ id, f.opens? types entered = some id →
      ((types id).model.propertyFields.map Field.propertyName).Nodup := by
  obtain ⟨typeName, built⟩ := declares.exists_propertyOf reached
  obtain ⟨fits, inner⟩ := exists_propertyOf_iff.mp built
  exact ⟨fits, fun id opens => (inner id opens).1⟩

theorem wellFormed_of_synthesize (hookFree : m.HookFree)
    (built : s.synthesize types m = .ok c) : m.WellFormed s.config types := by
  obtain ⟨settings, members⟩ := exists_members_of_synthesize built
  obtain ⟨replicationFactor, desiredCount, virtualPerPhysical⟩ :=
    checkSettings_eq_ok_iff.mp settings
  have declares := synthesize_declares hookFree.1 built
  obtain ⟨memberNames, vectorNames⟩ := Collection.nameClashes_eq_nil_iff.mp declares.unique
  rw [Collection.memberNames, declares.propertyNames_eq, declares.referenceNames_eq] at memberNames
  rw [Collection.vectorNames, declares.vectorNames_eq hookFree] at vectorNames
  exact
    { replicationFactor, desiredCount, virtualPerPhysical
      directives := fun f mem =>
        (exists_memberOf_iff.mp (exists_forall₂_iff.mp members f mem)).1
      fields := fun _ _ reached => (declares.fits reached).1
      levels := fun _ _ id reached => (declares.fits reached).2 id
      members := memberNames
      parameters := fun _ mem => (declares.suits hookFree mem).1
      sources := fun _ mem => (declares.suits hookFree mem).2
      vectors := vectorNames }

end Synthesizer

namespace Model.WellFormed

open Synthesis

variable {config : SynthesisConfig} {m : Model n} (wellFormed : m.WellFormed config types)
include wellFormed

/-- In a well-formed model, every field that is met has a property. The induction is on the
types under way: the fields that a field opens are met with one type more. -/
theorem exists_propertyOf {typeName : String} (reached : m.Reaches types entered f) :
    ∃ p, propertyOf config.maxDepth types typeName entered f = .ok p := by
  induction entered using types.entered_induction generalizing f typeName with
  | step entered ih =>
      refine exists_propertyOf_iff.mpr
        ⟨wellFormed.fields _ _ reached, fun id opens => ?_⟩
      exact ⟨wellFormed.levels _ _ _ reached opens, fun g mem =>
        ih id (Field.fresh_of_opens? opens) (.inner reached opens mem)⟩

theorem exists_members (typeName : String) :
    ∃ members, List.Forall₂
      (fun f member => memberOf config.maxDepth types typeName f = .ok member)
      m.fields members := by
  refine exists_forall₂_iff.mpr fun f mem => exists_memberOf_iff.mpr
    ⟨wellFormed.directives f mem, fun property => ?_⟩
  exact wellFormed.exists_propertyOf (.top (List.mem_filter.mpr ⟨mem, property⟩))

theorem exists_vectors (hookFree : m.HookFree) (lookup : HookLookup) {base : Collection}
    (properties : base.properties.map (·.name) = m.propertyFields.map Field.propertyName)
    (references : base.references.map (·.name) = Conformance.referenceNames m) :
    ∃ vectors, List.Forall₂ (fun fd v => vectorOf config lookup base fd.1 fd.2 = .ok v)
      (vectorDirectives m.fields) vectors := by
  refine exists_forall₂_iff.mpr fun fd mem =>
    ⟨_, (vectorOf_eq_ok_iff_made (hookFree.unhooked mem)).mpr
      ⟨wellFormed.parameters fd mem, ?_, rfl⟩⟩
  exact (checkSources_made_iff properties references).mpr (wellFormed.sources fd mem)

theorem nodup_memberNames {base : Collection}
    (properties : base.properties.map (·.name) = m.propertyFields.map Field.propertyName)
    (references : base.references.map (·.name) = Conformance.referenceNames m) :
    base.memberNames.Nodup := by
  rw [Collection.memberNames, properties, references]
  exact wellFormed.members

end Model.WellFormed

namespace Synthesizer

open Synthesis

variable {s : Synthesizer} {m : Model n}

/-- A well-formed model is built up step by step: the settings pass, every field becomes a
member, the members have distinct names, and so does what their vectors add to them. -/
theorem exists_declared_of_wellFormed (hookFree : m.HookFree)
    (wellFormed : m.WellFormed s.config types) : ∃ c, s.declared types m = .ok c := by
  have settings : checkSettings m.directive = .ok () :=
    checkSettings_eq_ok_iff.mpr
      ⟨wellFormed.replicationFactor, wellFormed.desiredCount, wellFormed.virtualPerPhysical⟩
  obtain ⟨members, built⟩ := wellFormed.exists_members m.typeName
  have propertyNames := propertyNames_withMembers built
  have referenceNames := referenceNames_withMembers built
  have memberNames := wellFormed.nodup_memberNames propertyNames referenceNames
  have uniqueMembers : requireUnique (m.withMembers members) = .ok () :=
    requireUnique_eq_ok_iff.mpr
      (Collection.nameClashes_eq_nil_iff.mpr ⟨memberNames, List.nodup_nil⟩)
  obtain ⟨vectors, builtVectors⟩ :=
    wellFormed.exists_vectors hookFree (s.lookup m) propertyNames referenceNames
  have vectorNames : (vectors.map (·.name)).Nodup := by
    rw [hookFree.names_of_vectorOf builtVectors]
    exact wellFormed.vectors
  have unique : requireUnique { m.withMembers members with vectors } = .ok () :=
    requireUnique_eq_ok_iff.mpr
      (Collection.nameClashes_eq_nil_iff.mpr ⟨memberNames, vectorNames⟩)
  rw [← (families_of_members built).2.2] at builtVectors
  simp only [declared, bind_eq_ok_iff, mapM_eq_ok_iff]
  exact ⟨_, (), settings, members, built, (), uniqueMembers, vectors, builtVectors, (),
    unique, applySettings_eq_ok_iff.mpr ⟨settings, rfl⟩⟩

/-- **The models that have a schema** are exactly the well-formed ones. -/
theorem exists_synthesize_iff (hookFree : m.HookFree) :
    (∃ c, s.synthesize types m = .ok c) ↔ m.WellFormed s.config types := by
  constructor
  · rintro ⟨c, built⟩
    exact wellFormed_of_synthesize hookFree built
  · intro wellFormed
    obtain ⟨c, declared⟩ := exists_declared_of_wellFormed hookFree wellFormed
    refine ⟨c, bind_eq_ok_iff.mpr ⟨c, declared, ?_⟩⟩
    rw [customizeCollection, hookFree.1]

end Synthesizer

/-! ### A drive at two depths -/

theorem wellFormed_drive :
    drive.HookFree ∧ drive.WellFormed { maxDepth := 3 } driveTypes ∧
      ¬ drive.WellFormed { maxDepth := 2 } driveTypes := by
  have unhooked : drive.HookFree := by decide
  have deep : Synthesizer.synthesize ⟨{ maxDepth := 3 }, []⟩ driveTypes drive =
      .ok driveSchema := by
    decide +kernel
  have shallow : Synthesizer.synthesize ⟨{ maxDepth := 2 }, []⟩ driveTypes drive =
      .error (.tooDeep "versions" 2) := by
    decide +kernel
  refine ⟨unhooked, (Synthesizer.exists_synthesize_iff unhooked).mp ⟨_, deep⟩, fun wellFormed => ?_⟩
  obtain ⟨c, built⟩ :=
    (Synthesizer.exists_synthesize_iff (s := ⟨{ maxDepth := 2 }, []⟩) unhooked).mpr wellFormed
  rw [shallow] at built
  cases built

end CollectionSchema
