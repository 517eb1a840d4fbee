import CollectionSchema.Vector.Json

/-!
The defaults of synthesis: what is used where a directive leaves a choice open.
-/

namespace CollectionSchema

/-- The defaults of synthesis. -/
structure SynthesisConfig where
  /-- The family of the index of a vector whose directive gives no index. -/
  indexFamily : IndexFamily := .hnsw
  /-- The metric of such an index. -/
  distance : Distance := .cosine
  /-- How many nested types may be entered one inside the other. -/
  maxDepth : Nat := 16
deriving DecidableEq, Repr, Inhabited

namespace SynthesisConfig

/-- The document of the defaults. -/
def toJson (c : SynthesisConfig) : Json :=
  .object [
    ("default_vector_index", c.indexFamily.toJson),
    ("default_distance", Enumeration.toJson c.distance),
    ("max_nesting_depth", .nat c.maxDepth)]

/-- The defaults of a document. -/
def ofJson? (j : Json) : Option SynthesisConfig := do
  let ms ← j.fields? ["default_vector_index", "default_distance", "max_nesting_depth"]
  let indexFamily ← ms.withDefault "default_vector_index" IndexFamily.ofJson? .hnsw
  let distance ← ms.withDefault "default_distance" Enumeration.ofJson? .cosine
  let maxDepth ← ms.withDefault "max_nesting_depth" Json.nat64? 16
  return ⟨indexFamily, distance, maxDepth⟩

end SynthesisConfig

end CollectionSchema
