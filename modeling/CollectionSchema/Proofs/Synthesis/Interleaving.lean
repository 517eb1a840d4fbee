import CollectionSchema.Proofs.Synthesis.Acceptance

/-!
Fields of different families, however they are interleaved.

Synthesis goes through the fields of a model in order and stops at the first that is wrong.
Still only the order within each family counts: what becomes of a property, a reference or a
vector is made from its own family, except that vectors read the members, and those are all
known before the first vector is made.

* `declared_eq_declaredFrom`: a schema is made family by family.
* `synthesize_of_sameFamilies`: lists with the same families have the same schema or the same
  error.
-/

namespace CollectionSchema

variable {n : Nat}

/-- `SameFamilies fields others`: the two lists have the same property fields, the same reference
fields and the same vector fields, each family in the same order. -/
structure SameFamilies (fields others : List (Field n)) : Prop where
  properties : fields.filter Field.becomesProperty = others.filter Field.becomesProperty
  references : fields.filter (·.reference.isSome) = others.filter (·.reference.isSome)
  vectors : fields.filter (·.vector.isSome) = others.filter (·.vector.isSome)

/-- No field is to become a vector and a reference. -/
def SinglyDirected (fields : List (Field n)) : Prop :=
  ∀ f ∈ fields, f.vector = none ∨ f.reference = none

instance (fields : List (Field n)) : Decidable (SinglyDirected fields) :=
  inferInstanceAs (Decidable (∀ f ∈ fields, f.vector = none ∨ f.reference = none))

namespace SameFamilies

variable {fields others : List (Field n)} (same : SameFamilies fields others)
include same

theorem referenceDirectives_eq :
    Synthesis.referenceDirectives fields = Synthesis.referenceDirectives others := by
  have fromFamily (fs : List (Field n)) : Synthesis.referenceDirectives fs =
      Synthesis.referenceDirectives (fs.filter (·.reference.isSome)) := by
    rw [Synthesis.referenceDirectives, Synthesis.referenceDirectives, List.filterMap_filter]
    refine List.filterMap_congr fun f _ => ?_
    cases f.reference <;> simp
  rw [fromFamily fields, same.references, ← fromFamily others]

theorem vectorDirectives_eq :
    Synthesis.vectorDirectives fields = Synthesis.vectorDirectives others := by
  have fromFamily (fs : List (Field n)) : Synthesis.vectorDirectives fs =
      Synthesis.vectorDirectives (fs.filter (·.vector.isSome)) := by
    rw [Synthesis.vectorDirectives, Synthesis.vectorDirectives, List.filterMap_filter]
    refine List.filterMap_congr fun f _ => ?_
    cases f.vector <;> simp
  rw [fromFamily fields, same.vectors, ← fromFamily others]

/-- A field with both directives would be among the vector fields of either list. -/
theorem singlyDirected (single : SinglyDirected fields) : SinglyDirected others := by
  intro f mem
  by_cases vector : f.vector = none
  · exact .inl vector
  · have among : f ∈ others.filter (·.vector.isSome) :=
      List.mem_filter.mpr ⟨mem, Option.isSome_iff_ne_none.mpr vector⟩
    rw [← same.vectors] at among
    exact single f (List.mem_filter.mp among).1

end SameFamilies

namespace Synthesis

variable {types : Catalog n} {maxDepth : Nat} {typeName : String} {fields : List (Field n)}
  {f : Field n} {e : SynthesisError}

/-- The property fields on their own fail as all the fields do. -/
theorem mapM_propertyOf_of_refused (single : SinglyDirected fields)
    (refused : fields.mapM (memberOf maxDepth types typeName) = .error e) :
    (fields.filter Field.becomesProperty).mapM (propertyOf maxDepth types typeName []) =
      .error e := by
  obtain ⟨before, f, after, rfl, before_ok, refused⟩ := mapM_eq_error_iff.mp refused
  have memF : f ∈ before ++ f :: after := List.mem_append_right _ (List.mem_cons_self ..)
  obtain ⟨vector, reference, -⟩ | ⟨property, refused⟩ := memberOf_eq_error_iff.mp refused
  · rcases single f memF with none | none
    · rw [none] at vector
      cases vector
    · rw [none] at reference
      cases reference
  refine mapM_eq_error_iff.mpr
    ⟨before.filter Field.becomesProperty, f, after.filter Field.becomesProperty, ?_, ?_, refused⟩
  · rw [List.filter_append, List.filter_cons_of_pos property]
  · intro g mem
    obtain ⟨memG, becomes⟩ := List.mem_filter.mp mem
    exact (exists_memberOf_iff.mp (before_ok g memG)).2 becomes

end Synthesis

namespace Synthesizer

open Synthesis

variable {s : Synthesizer} {types : Catalog n} {m : Model n}

/-- The schema of a model from the three families of its fields. Of the model itself only what is
said of the collection as a whole is read. -/
def declaredFrom (s : Synthesizer) (types : Catalog n) (m : Model n)
    (propertyFields : List (Field n)) (references : List (Field n × ReferenceDirective))
    (vectors : List (Field n × VectorDirective)) : Except SynthesisError Collection := do
  checkSettings m.directive
  let properties ← propertyFields.mapM (propertyOf s.config.maxDepth types m.typeName [])
  let base : Collection :=
    { name := m.collectionName
      description := m.directive.description
      properties
      references := references.map fun fd => referenceOf fd.1 fd.2 }
  requireUnique base
  let vectors ← vectors.mapM fun fd => vectorOf s.config (s.lookup m) base fd.1 fd.2
  let complete := { base with vectors }
  requireUnique complete
  applySettings m.directive complete

/-- **A schema is made family by family**: in place of the fields in their order, the properties
can be made first and the references after them. -/
theorem declared_eq_declaredFrom (single : SinglyDirected m.fields) :
    s.declared types m =
      s.declaredFrom types m m.propertyFields (referenceDirectives m.fields)
        (vectorDirectives m.fields) := by
  unfold declared declaredFrom
  congr 1
  funext _
  cases traversed : m.fields.mapM (memberOf s.config.maxDepth types m.typeName) with
  | error e =>
      rw [Model.propertyFields, mapM_propertyOf_of_refused single traversed]
      rfl
  | ok members =>
      obtain ⟨built, hreferences, hvectors⟩ := families_of_members (mapM_eq_ok_iff.mp traversed)
      rw [Model.propertyFields, mapM_eq_ok_iff.mpr built, ← hreferences, ← hvectors]
      rfl

/-- **Only the order within each family matters**: whether a schema is made and which one, or
which error is reported, is the same for all lists of fields with the same families. -/
theorem synthesize_of_sameFamilies (s : Synthesizer) (types : Catalog n) (m : Model n)
    {fields : List (Field n)} (single : SinglyDirected m.fields)
    (same : SameFamilies m.fields fields) :
    s.synthesize types { m with fields } = s.synthesize types m := by
  have declared : s.declared types { m with fields } = s.declared types m := by
    rw [declared_eq_declaredFrom single,
      declared_eq_declaredFrom (m := { m with fields }) (same.singlyDirected single),
      ← same.referenceDirectives_eq, ← same.vectorDirectives_eq, Model.propertyFields,
      Model.propertyFields, ← same.properties]
    rfl
  rw [synthesize, synthesize, declared]
  rfl

end Synthesizer

/-! ### A page in two orders

A page has a title, an embedding of title and body, an author, and a body of some type. -/

def pageTypes : Catalog 0 := fun id => id.elim0

def pageTitle : Field 0 := { ident := "title", valueType := .scalar .string }

def pageEmbedding : Field 0 where
  ident := "embedding"
  valueType := .list (.scalar .float32)
  vector := some { vectorizer := .openAi, sources := ["title", "body"] }

def pageAuthor : Field 0 where
  ident := "author"
  valueType := .scalar .uuid
  reference := some { target := "Person" }

def pageBody (type : ValueType 0) : Field 0 := { ident := "body", valueType := type }

def page (body : ValueType 0) : Model 0 where
  typeName := "Page"
  fields := [pageTitle, pageEmbedding, pageAuthor, pageBody body]

/-- The same fields, with the embedding before all that it reads. -/
def reorderedPage (body : ValueType 0) : Model 0 :=
  { page body with fields := [pageEmbedding, pageTitle, pageBody body, pageAuthor] }

theorem synthesize_reorderedPage :
    (∀ body, SinglyDirected (page body).fields ∧
      SameFamilies (page body).fields (reorderedPage body).fields) ∧
    ({} : Synthesizer).synthesize pageTypes (reorderedPage (.scalar .string)) =
      .ok
        { name := "Page"
          properties := [.ofKind "title" .text, .ofKind "body" .text]
          references := [⟨"author", "Person", none⟩]
          vectors := [
            ⟨"embedding", .openAi none none none ["title", "body"] none,
              IndexFamily.hnsw.plainIndex .cosine⟩] } ∧
    ({} : Synthesizer).synthesize pageTypes (reorderedPage (.foreign "Html")) =
      .error (.noKind "Page" "body" "Html") := by
  have single (body : ValueType 0) : SinglyDirected (page body).fields := by
    simp [SinglyDirected, page, pageTitle, pageEmbedding, pageAuthor, pageBody]
  have same (body : ValueType 0) :
      SameFamilies (page body).fields (reorderedPage body).fields := ⟨rfl, rfl, rfl⟩
  have reordered (body : ValueType 0) :=
    Synthesizer.synthesize_of_sameFamilies {} pageTypes (page body) (single body) (same body)
  refine ⟨fun body => ⟨single body, same body⟩, (reordered _).trans ?_, (reordered _).trans ?_⟩
  · decide +kernel
  · decide +kernel

end CollectionSchema
