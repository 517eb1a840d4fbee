import CollectionSchema.Migration.Change
import CollectionSchema.Proofs.Synthesis.Acceptance

/-!
A model with one more field, and its schema.

A field has a say in what becomes of it and in nothing else: not in the members that
other fields become, wherever it stands among them, and not in the vectors, although these
are made with all members known.

* `growsBy_of_synthesize`: the schema of the model with the field is the schema of the model
  with what is synthesized for the field, put in its family.
-/

namespace CollectionSchema

variable {n : Nat} {types : Catalog n} {f : Field n}

/-- The model with one more field, behind so many of the others. -/
def Model.withField (m : Model n) (position : Nat) (f : Field n) : Model n :=
  { m with fields := m.fields.take position ++ f :: m.fields.drop position }

/-- `c.GrowsBy c' subject`: the schema `c'` is `c` with one more member, somewhere in its
family. -/
inductive Collection.GrowsBy (c c' : Collection) : ChangeSubject → Prop where
  | property (before after : List Property) (p : Property) :
      c.properties = before ++ after → c' = { c with properties := before ++ p :: after } →
        c.GrowsBy c' (.property p)
  | reference (before after : List Reference) (r : Reference) :
      c.references = before ++ after → c' = { c with references := before ++ r :: after } →
        c.GrowsBy c' (.reference r)
  | vector (before after : List NamedVector) (v : NamedVector) :
      c.vectors = before ++ after → c' = { c with vectors := before ++ v :: after } →
        c.GrowsBy c' (.vector v)

namespace Synthesis

/-! ### Vectors in different schemas -/

section Vectors

variable {config : SynthesisConfig} {lookup : HookLookup} {a b : Collection} {d : VectorDirective}

/-- Of a schema, a vector reads the names of its properties and references. -/
theorem vectorOf_congr (properties : a.properties = b.properties)
    (references : a.references = b.references) :
    vectorOf config lookup a f d = vectorOf config lookup b f d := by
  have known : knownSources a = knownSources b := by
    funext v
    rw [knownSources, knownSources, properties, references]
  have checked (name : String) : checkSources name a = checkSources name b := by
    funext v
    rw [checkSources, checkSources, known]
  simp only [vectorOf, checked]

/-- A schema decides whether there is a vector, but not which one. -/
theorem eq_of_vectorOf {v w : NamedVector} (left : vectorOf config lookup a f d = .ok v)
    (right : vectorOf config lookup b f d = .ok w) : v = w := by
  simp only [vectorOf, bind_eq_ok_iff] at left right
  obtain ⟨vectorizer, made, _, -, customized⟩ := left
  obtain ⟨vectorizer', made', _, -, customized'⟩ := right
  obtain rfl : vectorizer = vectorizer' := Except.ok.inj (made.symm.trans made')
  exact Except.ok.inj (customized.symm.trans customized')

end Vectors

/-! ### One more member -/

section Members

variable {m : Model n} {before after : List (Member n)} {vectors : List NamedVector}

/-- The schema that a model has when its fields became some members and some vectors. -/
def schemaOf (m : Model n) (members : List (Member n)) (vectors : List NamedVector) : Collection :=
  withSettings m.directive { m.withMembers members with vectors }

theorem growsBy_property (p : Property) :
    (schemaOf m (before ++ after) vectors).GrowsBy
      (schemaOf m (before ++ .property p :: after) vectors) (.property p) := by
  have grown : properties (before ++ .property p :: after) =
      properties before ++ p :: properties after := by simp [properties]
  have same : references (before ++ .property p :: after) = references (before ++ after) := by
    simp [references]
  refine .property (properties before) (properties after) p List.filterMap_append ?_
  rw [schemaOf, Model.withMembers, grown, same]
  rfl

theorem growsBy_reference (r : Reference) :
    (schemaOf m (before ++ after) vectors).GrowsBy
      (schemaOf m (before ++ .reference r :: after) vectors) (.reference r) := by
  have same : properties (before ++ .reference r :: after) = properties (before ++ after) := by
    simp [properties]
  have grown : references (before ++ .reference r :: after) =
      references before ++ r :: references after := by simp [references]
  refine .reference (references before) (references after) r List.filterMap_append ?_
  rw [schemaOf, Model.withMembers, same, grown]
  rfl

theorem growsBy_vector (d : VectorDirective) (v : NamedVector) {left right : List NamedVector} :
    (schemaOf m (before ++ after) (left ++ right)).GrowsBy
      (schemaOf m (before ++ .vector f d :: after) (left ++ v :: right)) (.vector v) := by
  have properties_eq : properties (before ++ .vector f d :: after) =
      properties (before ++ after) := by simp [properties]
  have references_eq : references (before ++ .vector f d :: after) =
      references (before ++ after) := by simp [references]
  refine .vector left right v rfl ?_
  rw [schemaOf, Model.withMembers, properties_eq, references_eq]
  rfl

end Members

end Synthesis

namespace Synthesizer

open Synthesis

variable {s : Synthesizer} {m : Model n} {c c' : Collection}

/-- What is synthesized for a field: its property, its reference, or its vector in a schema
that has what the vector reads. -/
def subjectOf (s : Synthesizer) (types : Catalog n) (m : Model n) (c : Collection) (f : Field n) :
    Except SynthesisError ChangeSubject := do
  match ← memberOf s.config.maxDepth types m.typeName f with
  | .property p => return .property p
  | .reference r => return .reference r
  | .vector f d => return .vector (← vectorOf s.config (s.lookup m) c f d)

/-- Without a hook, a schema has the members that the fields become and the vectors that
are made when these are known. -/
theorem exists_schemaOf (unhooked : m.directive.hook = none)
    (built : s.synthesize types m = .ok c) : ∃ members vectors,
      List.Forall₂ (fun f member => memberOf s.config.maxDepth types m.typeName f = .ok member)
        m.fields members ∧
      List.Forall₂
        (fun fd v => vectorOf s.config (s.lookup m) (m.withMembers members) fd.1 fd.2 = .ok v)
        (vectorFields members) vectors ∧
      c = schemaOf m members vectors := by
  simp only [synthesize, declared, bind_eq_ok_iff, mapM_eq_ok_iff,
    customizeCollection, unhooked, Except.ok.injEq] at built
  obtain ⟨_, ⟨_, -, members, hmembers, _, -, vectors, hvectors, _, -, applied⟩, rfl⟩ := built
  obtain ⟨-, rfl⟩ := applySettings_eq_ok_iff.mp applied
  exact ⟨members, vectors, hmembers, hvectors, rfl⟩

/-- **One more field is one more member**: the schema of the model with the field is that of
the model without it, with what is synthesized for the field. -/
theorem growsBy_of_synthesize {position : Nat} (unhooked : m.directive.hook = none)
    (built : s.synthesize types m = .ok c)
    (builtWith : s.synthesize types (m.withField position f) = .ok c') :
    ∃ subject, s.subjectOf types m c' f = .ok subject ∧ c.GrowsBy c' subject := by
  obtain ⟨members, vectors, hmembers, hvectors, rfl⟩ := exists_schemaOf unhooked built
  obtain ⟨members', vectors', hmembers', hvectors', rfl⟩ :=
    exists_schemaOf (m := m.withField position f) unhooked builtWith
  obtain ⟨before, member, after, rfl, found, others⟩ := exists_of_forall₂_insert hmembers'
  obtain rfl : members = before ++ after := by
    rw [List.take_append_drop] at others
    exact eq_of_forall₂ hmembers others fun _ _ _ left right =>
      Except.ok.inj (left.symm.trans right)
  -- The vectors of the two models are made in different schemas.
  have agree (fd : Field n × VectorDirective) (v w : NamedVector)
      (left : vectorOf s.config (s.lookup m) (m.withMembers (before ++ after)) fd.1 fd.2 = .ok v)
      (right : vectorOf s.config (s.lookup m) (m.withMembers (before ++ member :: after))
        fd.1 fd.2 = .ok w) : v = w :=
    eq_of_vectorOf left right
  cases member with
  | property p =>
      have same : vectorFields (before ++ .property p :: after) =
          vectorFields (before ++ after) := by simp [vectorFields]
      rw [same] at hvectors'
      obtain rfl := eq_of_forall₂ hvectors hvectors' agree
      exact ⟨.property p, bind_eq_ok_iff.mpr ⟨_, found, rfl⟩, growsBy_property p⟩
  | reference r =>
      have same : vectorFields (before ++ .reference r :: after) =
          vectorFields (before ++ after) := by simp [vectorFields]
      rw [same] at hvectors'
      obtain rfl := eq_of_forall₂ hvectors hvectors' agree
      exact ⟨.reference r, bind_eq_ok_iff.mpr ⟨_, found, rfl⟩, growsBy_reference r⟩
  | vector g d =>
      have grown : vectorFields (before ++ .vector g d :: after) =
          vectorFields before ++ (g, d) :: vectorFields after := by simp [vectorFields]
      have split : vectorFields (before ++ after) = vectorFields before ++ vectorFields after :=
        List.filterMap_append
      rw [grown] at hvectors'
      obtain ⟨left, v, right, rfl, made, others⟩ := exists_of_forall₂_insert hvectors'
      rw [← split] at others
      obtain rfl := eq_of_forall₂ hvectors others agree
      have known : vectorOf s.config (s.lookup m)
          (schemaOf m (before ++ .vector g d :: after) (left ++ v :: right)) g d = .ok v := by
        rw [← made]
        exact vectorOf_congr rfl rfl
      exact ⟨.vector v, bind_eq_ok_iff.mpr ⟨_, found, bind_eq_ok_iff.mpr ⟨v, known, rfl⟩⟩,
        growsBy_vector d v⟩

end Synthesizer

end CollectionSchema
