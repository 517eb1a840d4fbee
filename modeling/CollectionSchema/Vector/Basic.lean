import CollectionSchema.Vector.Index
import CollectionSchema.Vector.Vectorizer

/-!
Named vectors: a collection's objects carry one vector under each name, made by a vectorizer and
searched through an index.
-/

namespace CollectionSchema

/-- A vector that the objects of a collection have under a name. -/
structure NamedVector where
  name : String
  vectorizer : Vectorizer
  index : VectorIndex
deriving DecidableEq, Repr

namespace NamedVector

/-- A vector that callers provide, in a graph-based index with the cosine metric. -/
def selfProvided (name : String) : NamedVector :=
  ⟨name, .selfProvided, IndexFamily.hnsw.plainIndex .cosine⟩

end NamedVector

end CollectionSchema
