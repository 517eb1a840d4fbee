import CollectionSchema.Json.Enumeration

/-!
Vectorizers: the modules that compute the vectors of a collection's objects, each with the
parameters it takes. With the self-provided one, callers bring their own vectors.
-/

namespace CollectionSchema

/-- A module that computes vectors, with its parameters. -/
inductive Vectorizer where
  | selfProvided
  | openAi (model : Option String) (dimensions : Option UInt32) (baseUrl : Option String)
      (sources : List String) (vectorizeCollectionName : Option Bool)
  | cohere (model truncate : Option String) (sources : List String)
  | transformers (poolingStrategy inferenceUrl : Option String) (sources : List String)
  | ollama (model : String) (apiEndpoint : Option String) (sources : List String)
  | clip (inferenceUrl : Option String) (imageFields textFields : List String)
  | centroid (references : List String) (method : Option String)
deriving DecidableEq, Repr, Inhabited

namespace Vectorizer

/-- The name of the module. -/
def moduleName : Vectorizer → String
  | selfProvided => "none"
  | openAi .. => "text2vec-openai"
  | cohere .. => "text2vec-cohere"
  | transformers .. => "text2vec-transformers"
  | ollama .. => "text2vec-ollama"
  | clip .. => "multi2vec-clip"
  | centroid .. => "ref2vec-centroid"

/-- Whether callers bring their own vectors. -/
def isSelfProvided : Vectorizer → Bool
  | selfProvided => true
  | _ => false

/-- The properties that the module reads, or the references for the centroid module. -/
def sources : Vectorizer → List String
  | selfProvided => []
  | openAi _ _ _ sources _ => sources
  | cohere _ _ sources => sources
  | transformers _ _ sources => sources
  | ollama _ _ sources => sources
  | clip _ imageFields textFields => imageFields ++ textFields
  | centroid references _ => references

end Vectorizer

end CollectionSchema
