import CollectionSchema.Proofs.Synthesis.Unfolding

/-!
The parameters of synthesized vectorizers.

One directive serves all modules, and each module takes some of its parameters: `takes` lists them.
A self-provided vector is refused whatever parameter it is given. The other modules leave aside what
they do not take, and synthesis says nothing of it.

* `holds_made`: a vectorizer has the parameters that its module takes, as the directive sets them.
* `carries_made_iff`: nothing that a directive sets is lost just when its module takes all of it.
* `Synthesizer.parameters_held`: both hold of every vector of a schema.
* `not_carries`: a vector may lose what its directive sets.
-/

namespace CollectionSchema

/-- The parameters that a module takes. -/
def VectorizerChoice.takes : VectorizerChoice → List VectorizerParameter
  | selfProvided => []
  | openAi => [.model, .dimensions, .baseUrl, .sources]
  | cohere => [.model, .sources]
  | transformers => [.baseUrl, .sources]
  | ollama => [.model, .baseUrl, .sources]
  | clip => [.baseUrl, .sources, .imageFields]
  | centroid => [.sources]

namespace VectorDirective

/-- The directive without the parameters that its module does not take. -/
def taken (d : VectorDirective) : VectorDirective :=
  { d with
    model := if .model ∈ d.vectorizer.takes then d.model else none
    dimensions := if .dimensions ∈ d.vectorizer.takes then d.dimensions else none
    baseUrl := if .baseUrl ∈ d.vectorizer.takes then d.baseUrl else none
    sources := if .sources ∈ d.vectorizer.takes then d.sources else []
    imageFields := if .imageFields ∈ d.vectorizer.takes then d.imageFields else [] }

/-- The module takes all that the directive sets. Image fields are as good as taken where they are
sources too; sources themselves are always taken (`sources_taken`). -/
structure AllTaken (d : VectorDirective) : Prop where
  model : d.model.isSome → .model ∈ d.vectorizer.takes
  dimensions : d.dimensions.isSome → .dimensions ∈ d.vectorizer.takes
  baseUrl : d.baseUrl.isSome → .baseUrl ∈ d.vectorizer.takes
  imageFields : .imageFields ∈ d.vectorizer.takes ∨ d.imageFields ⊆ d.sources

end VectorDirective

/-! ### The parameters of a vectorizer -/

namespace Vectorizer

/-- The model that computes the vectors. -/
def model? : Vectorizer → Option String
  | openAi model .. => model
  | cohere model .. => model
  | ollama model .. => some model
  | selfProvided | transformers .. | clip .. | centroid .. => none

/-- The dimensions of the vectors. -/
def dimensions? : Vectorizer → Option UInt32
  | openAi _ dimensions .. => dimensions
  | selfProvided | cohere .. | transformers .. | ollama .. | clip .. | centroid .. => none

/-- Where the module is reached. -/
def url? : Vectorizer → Option String
  | openAi _ _ baseUrl .. => baseUrl
  | transformers _ inferenceUrl _ => inferenceUrl
  | ollama _ apiEndpoint _ => apiEndpoint
  | clip inferenceUrl .. => inferenceUrl
  | selfProvided | cohere .. | centroid .. => none

/-- `v.Holds d`: the parameters of `v` are those that `d` sets. -/
structure Holds (v : Vectorizer) (d : VectorDirective) : Prop where
  model : v.model? = d.model
  dimensions : v.dimensions? = d.dimensions
  url : v.url? = d.baseUrl
  sources : v.sources = d.imageFields ++ d.sources

/-- `v.Carries d`: the parameters that `d` sets are among those of `v`. -/
structure Carries (v : Vectorizer) (d : VectorDirective) : Prop where
  model : ∀ model, d.model = some model → v.model? = some model
  dimensions : ∀ dimensions, d.dimensions = some dimensions → v.dimensions? = some dimensions
  url : ∀ url, d.baseUrl = some url → v.url? = some url
  sources : d.sources ⊆ v.sources
  imageFields : d.imageFields ⊆ v.sources

end Vectorizer

namespace VectorDirective

variable {d : VectorDirective}

theorem holds_made (fit : d.ParametersFit) : d.made.Holds d.taken := by
  unfold made taken
  cases module : d.vectorizer with
  | ollama =>
      have given : d.model.isSome := by simpa [ParametersFit, module] using fit
      obtain ⟨model, given⟩ := Option.isSome_iff_exists.mp given
      constructor <;> simp [Vectorizer.model?, Vectorizer.dimensions?, Vectorizer.url?,
        Vectorizer.sources, VectorizerChoice.takes, given]
  | _ =>
      constructor <;> simp [Vectorizer.model?, Vectorizer.dimensions?, Vectorizer.url?,
        Vectorizer.sources, VectorizerChoice.takes]

/-- Only a self-provided vector has no use for sources, and it is given none. -/
theorem sources_taken (fit : d.ParametersFit) : d.taken.sources = d.sources := by
  unfold taken
  cases module : d.vectorizer with
  | selfProvided =>
      obtain ⟨-, -, -, none, -⟩ : d.model = none ∧ _ := by simpa [ParametersFit, module] using fit
      simp [none]
  | _ => simp [VectorizerChoice.takes]

/-- A parameter that is left aside unless a condition holds is never lost just when the condition
holds if the parameter is set. -/
theorem forall_ite_eq_some_iff {α : Type} {parameter : Option α} {taken : Prop}
    [Decidable taken] :
    (∀ value, parameter = some value → (if taken then parameter else none) = some value) ↔
      (parameter.isSome → taken) := by
  cases parameter <;> simp

theorem carries_made_iff (fit : d.ParametersFit) : d.made.Carries d ↔ d.AllTaken := by
  have holds := holds_made fit
  have model : (∀ model, d.model = some model → d.made.model? = some model) ↔
      (d.model.isSome → .model ∈ d.vectorizer.takes) := by
    rw [holds.model]
    exact forall_ite_eq_some_iff
  have dimensions :
      (∀ dimensions, d.dimensions = some dimensions → d.made.dimensions? = some dimensions) ↔
        (d.dimensions.isSome → .dimensions ∈ d.vectorizer.takes) := by
    rw [holds.dimensions]
    exact forall_ite_eq_some_iff
  have url : (∀ url, d.baseUrl = some url → d.made.url? = some url) ↔
      (d.baseUrl.isSome → .baseUrl ∈ d.vectorizer.takes) := by
    rw [holds.url]
    exact forall_ite_eq_some_iff
  have sources : d.made.sources = d.taken.imageFields ++ d.sources := by
    rw [holds.sources, sources_taken fit]
  have imageFields : d.imageFields ⊆ d.made.sources ↔
      .imageFields ∈ d.vectorizer.takes ∨ d.imageFields ⊆ d.sources := by
    rw [sources]
    by_cases takes : .imageFields ∈ d.vectorizer.takes
    · have kept : d.taken.imageFields = d.imageFields := if_pos takes
      simp [takes, kept]
    · have left : d.taken.imageFields = [] := if_neg takes
      simp [takes, left]
  constructor
  · intro carries
    exact ⟨model.mp carries.model, dimensions.mp carries.dimensions, url.mp carries.url,
      imageFields.mp carries.imageFields⟩
  · intro all
    refine ⟨model.mpr all.model, dimensions.mpr all.dimensions, url.mpr all.baseUrl, ?_,
      imageFields.mpr all.imageFields⟩
    rw [sources]
    exact List.subset_append_right _ _

end VectorDirective

/-! ### The vectors of a schema -/

namespace Synthesizer

open Synthesis

variable {n : Nat} {s : Synthesizer} {types : Catalog n} {m : Model n} {c : Collection}

/-- **Every vectorizer has the parameters that its module takes, and nothing else.** They are those
of its directive; so nothing that the directive sets is lost just when its module takes all of
it. -/
theorem parameters_held (hookFree : m.HookFree) (built : s.synthesize types m = .ok c) :
    List.Forall₂
      (fun fd v => v.vectorizer.Holds fd.2.taken ∧
        (v.vectorizer.Carries fd.2 ↔ fd.2.AllTaken))
      (vectorDirectives m.fields) c.vectors := by
  refine (synthesize_declares hookFree.1 built).forall₂_vectors hookFree ?_
  intro fd fit
  exact ⟨VectorDirective.holds_made fit, VectorDirective.carries_made_iff fit⟩

end Synthesizer

/-! ### A poem

The module of its mood takes neither a model nor dimensions, and it reads no images. -/

def poemTypes : Catalog 0 := fun id => id.elim0

def poem : Model 0 where
  typeName := "Poem"
  fields := [
    { ident := "text", valueType := .scalar .string },
    { ident := "mood", valueType := .list (.scalar .float32),
      vector := some
        { vectorizer := .transformers
          model := some "minilm"
          dimensions := some 256
          baseUrl := some "http://moods"
          sources := ["text"]
          imageFields := ["cover"] } },
    { ident := "theme", valueType := .list (.scalar .float32),
      vector := some
        { vectorizer := .openAi
          model := some "small"
          dimensions := some 512
          sources := ["text"]
          imageFields := ["text"] } }]

def poemSchema : Collection where
  name := "Poem"
  properties := [.ofKind "text" .text]
  vectors := [
    ⟨"mood", .transformers none (some "http://moods") ["text"], .hnsw { distance := some .cosine }⟩,
    ⟨"theme", .openAi (some "small") (some 512) none ["text"] none,
      .hnsw { distance := some .cosine }⟩]

theorem synthesize_poem : ({} : Synthesizer).synthesize poemTypes poem = .ok poemSchema := by
  decide +kernel

theorem parameters_held_poem :
    poem.HookFree ∧ ({} : Synthesizer).synthesize poemTypes poem = .ok poemSchema ∧
      List.Forall₂
        (fun fd v => v.vectorizer.Holds fd.2.taken ∧
          (v.vectorizer.Carries fd.2 ↔ fd.2.AllTaken))
        (Synthesis.vectorDirectives poem.fields) poemSchema.vectors :=
  ⟨by decide, synthesize_poem, Synthesizer.parameters_held (by decide) synthesize_poem⟩

/-- A vectorizer need not carry all that its directive sets: the mood of the poem has lost its
model. -/
theorem not_carries :
    ¬ ∀ (n : Nat) (s : Synthesizer) (types : Catalog n) (m : Model n) (c : Collection),
      m.HookFree → s.synthesize types m = .ok c →
        List.Forall₂ (fun fd v => v.vectorizer.Carries fd.2) (Synthesis.vectorDirectives m.fields)
          c.vectors := by
  intro carries
  have vectors := carries 0 {} poemTypes poem poemSchema (by decide) synthesize_poem
  cases vectors with
  | cons mood _ =>
      have lost : (none : Option String) = some "minilm" := mood.model "minilm" rfl
      cases lost

end CollectionSchema
