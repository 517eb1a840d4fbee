import CollectionSchema.Synthesis.Config
import CollectionSchema.Synthesis.Hooks

/-!
Vectors of the fields of a model.

The vectorizer is made from the parameters of the directive, as far as its module takes them. What
it reads must be in the collection. The index is the one given, or the default one, with the metric
and the quantizer of the directive; a hook has the last word.
-/

namespace CollectionSchema

namespace Synthesis

variable {n : Nat}

/-- The first parameter that a directive sets, in the order in which a self-provided vector is
checked for parameters. -/
def firstParameter? (d : VectorDirective) : Option VectorizerParameter :=
  if d.model.isSome then some .model
  else if d.dimensions.isSome then some .dimensions
  else if d.baseUrl.isSome then some .baseUrl
  else if !d.sources.isEmpty then some .sources
  else if !d.imageFields.isEmpty then some .imageFields
  else none

/-- The vectorizer of a vector. -/
def vectorizerOf (name : String) (d : VectorDirective) : Except SynthesisError Vectorizer :=
  match d.vectorizer with
  | .selfProvided =>
    match firstParameter? d with
    | some parameter => .error (.needlessParameter name parameter)
    | none => .ok .selfProvided
  | .openAi => .ok (.openAi d.model d.dimensions d.baseUrl d.sources none)
  | .cohere => .ok (.cohere d.model none d.sources)
  | .transformers => .ok (.transformers none d.baseUrl d.sources)
  | .ollama =>
    match d.model with
    | some model => .ok (.ollama model d.baseUrl d.sources)
    | none => .error (.missingParameter name "text2vec-ollama" .model)
  | .clip => .ok (.clip d.baseUrl d.imageFields d.sources)
  | .centroid =>
    if d.sources.isEmpty then
      .error (.missingParameter name "ref2vec-centroid" .references)
    else
      .ok (.centroid d.sources none)

/-- What a vectorizer reads: references for the centroid module, properties for all others. -/
def sourceKind : Vectorizer → SourceKind
  | .centroid .. => .reference
  | _ => .property

/-- The names that a vectorizer may read. -/
def knownSources (c : Collection) (v : Vectorizer) : List String :=
  match sourceKind v with
  | .reference => c.references.map (·.name)
  | .property => c.properties.map (·.name)

/-- Checks that everything a vectorizer reads is in the collection. -/
def checkSources (name : String) (c : Collection) (v : Vectorizer) : Except SynthesisError Unit :=
  match v.sources.find? fun source => !(knownSources c v).contains source with
  | some source => .error (.unknownSource name source (sourceKind v))
  | none => .ok ()

/-- The index of a vector. -/
def indexOf (config : SynthesisConfig) (d : VectorDirective) : VectorIndex :=
  let base := d.index.getD (config.indexFamily.plainIndex config.distance)
  let measured :=
    match d.distance with
    | some distance => base.setDistance distance
    | none => base
  match d.quantizer with
  | some quantizer => measured.setQuantizer quantizer
  | none => measured

/-- Applies the hook of a vector, if its directive names one. -/
def customizeVector (lookup : HookLookup) (d : VectorDirective) (v : NamedVector) :
    Except SynthesisError NamedVector :=
  match d.hook with
  | none => .ok v
  | some hook => do
    let customize ← lookup.vector hook
    return customize v.name v

/-- The vector of a field, in a collection that has its properties and references. -/
def vectorOf (config : SynthesisConfig) (lookup : HookLookup) (c : Collection) (f : Field n)
    (d : VectorDirective) : Except SynthesisError NamedVector := do
  let name := f.vectorName d
  let vectorizer ← vectorizerOf name d
  checkSources name c vectorizer
  customizeVector lookup d ⟨name, vectorizer, indexOf config d⟩

end Synthesis

end CollectionSchema
