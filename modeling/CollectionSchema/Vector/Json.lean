import CollectionSchema.Vector.Basic

/-!
The documents of named vectors, their vectorizers and their indexes.

A vectorizer or quantizer has a `type` that tells the variant and with it the other members; an
index is an object with one single key, its family.
-/

namespace CollectionSchema

/-- A list of texts. -/
def Json.texts? : Json → Option (List String) :=
  Json.list? Json.string?

namespace Quantizer

/-- The document of a quantizer. -/
def toJson : Quantizer → Json
  | product segments centroids => .record [
      ("type", some (.string "pq")),
      ("segments", segments.map fun n => .nat n.toNat),
      ("centroids", centroids.map fun n => .nat n.toNat)]
  | binary cache => .record [
      ("type", some (.string "bq")),
      ("cache", cache.map .bool)]
  | scalar trainingLimit => .record [
      ("type", some (.string "sq")),
      ("trainingLimit", trainingLimit.map fun n => .nat n.toNat)]
  | rotational bits => .record [
      ("type", some (.string "rq")),
      ("bits", bits.map fun n => .nat n.toNat)]

/-- The names of the settings of a quantizer, by its tag. -/
def parameters : String → List String
  | "pq" => ["segments", "centroids"]
  | "bq" => ["cache"]
  | "sq" => ["trainingLimit"]
  | "rq" => ["bits"]
  | _ => []

/-- The quantizer of a document. -/
def ofJson? (j : Json) : Option Quantizer := do
  let ms ← j.tagged? parameters
  match ← ms.required "type" Json.string? with
  | "pq" =>
    let segments ← ms.optional "segments" Json.uint32?
    let centroids ← ms.optional "centroids" Json.uint32?
    return .product segments centroids
  | "bq" =>
    let cache ← ms.optional "cache" Json.bool?
    return .binary cache
  | "sq" =>
    let trainingLimit ← ms.optional "trainingLimit" Json.uint32?
    return .scalar trainingLimit
  | "rq" =>
    let bits ← ms.optional "bits" Json.uint8?
    return .rotational bits
  | _ => none

end Quantizer

namespace HnswIndex

/-- The document of the settings of a graph-based index. -/
def toJson (i : HnswIndex) : Json :=
  .record [
    ("distance", i.distance.map Enumeration.toJson),
    ("ef", i.ef.map fun n => .int n.toInt),
    ("efConstruction", i.efConstruction.map fun n => .nat n.toNat),
    ("maxConnections", i.maxConnections.map fun n => .nat n.toNat),
    ("quantizer", i.quantizer.map Quantizer.toJson)]

/-- The settings of a graph-based index in a document. -/
def ofJson? (j : Json) : Option HnswIndex := do
  let ms ← j.fields? ["distance", "ef", "efConstruction", "maxConnections", "quantizer"]
  let distance ← ms.optional "distance" Enumeration.ofJson?
  let ef ← ms.optional "ef" Json.int32?
  let efConstruction ← ms.optional "efConstruction" Json.uint32?
  let maxConnections ← ms.optional "maxConnections" Json.uint32?
  let quantizer ← ms.optional "quantizer" Quantizer.ofJson?
  return ⟨distance, ef, efConstruction, maxConnections, quantizer⟩

end HnswIndex

namespace FlatIndex

/-- The document of the settings of a flat index. -/
def toJson (i : FlatIndex) : Json :=
  .record [
    ("distance", i.distance.map Enumeration.toJson),
    ("vectorCacheMaxObjects", i.vectorCacheMaxObjects.map fun n => .nat n.toNat),
    ("quantizer", i.quantizer.map Quantizer.toJson)]

/-- The settings of a flat index in a document. -/
def ofJson? (j : Json) : Option FlatIndex := do
  let ms ← j.fields? ["distance", "vectorCacheMaxObjects", "quantizer"]
  let distance ← ms.optional "distance" Enumeration.ofJson?
  let vectorCacheMaxObjects ← ms.optional "vectorCacheMaxObjects" Json.uint64?
  let quantizer ← ms.optional "quantizer" Quantizer.ofJson?
  return ⟨distance, vectorCacheMaxObjects, quantizer⟩

end FlatIndex

namespace DynamicIndex

/-- The document of the settings of a dynamic index, both stages always included. -/
def toJson (i : DynamicIndex) : Json :=
  .record [
    ("distance", i.distance.map Enumeration.toJson),
    ("threshold", i.threshold.map fun n => .nat n.toNat),
    ("hnsw", some i.hnsw.toJson),
    ("flat", some i.flat.toJson)]

/-- The settings of a dynamic index in a document. -/
def ofJson? (j : Json) : Option DynamicIndex := do
  let ms ← j.fields? ["distance", "threshold", "hnsw", "flat"]
  let distance ← ms.optional "distance" Enumeration.ofJson?
  let threshold ← ms.optional "threshold" Json.uint64?
  let hnsw ← ms.withDefault "hnsw" HnswIndex.ofJson? {}
  let flat ← ms.withDefault "flat" FlatIndex.ofJson? {}
  return ⟨distance, threshold, hnsw, flat⟩

end DynamicIndex

namespace VectorIndex

/-- The document of an index: its settings under its family. -/
def toJson : VectorIndex → Json
  | hnsw index => .object [("hnsw", index.toJson)]
  | flat index => .object [("flat", index.toJson)]
  | dynamic index => .object [("dynamic", index.toJson)]

/-- The index of a document with exactly one member. -/
def ofJson? : Json → Option VectorIndex
  | .object [("hnsw", settings)] => (HnswIndex.ofJson? settings).map hnsw
  | .object [("flat", settings)] => (FlatIndex.ofJson? settings).map flat
  | .object [("dynamic", settings)] => (DynamicIndex.ofJson? settings).map dynamic
  | _ => none

end VectorIndex

namespace IndexFamily

/-- The word for a family as a text. -/
def toJson (family : IndexFamily) : Json :=
  .string family.name

/-- The family of a word, in lowercase or in uppercase. -/
def ofJson? (j : Json) : Option IndexFamily :=
  j.word?.bind ofName?

end IndexFamily

namespace Vectorizer

/-- The document of a vectorizer. -/
def toJson (v : Vectorizer) : Json :=
  let typed (members : List (String × Option Json)) : Json :=
    .record (("type", some (.string v.moduleName)) :: members)
  match v with
  | selfProvided => typed []
  | openAi model dimensions baseUrl sources vectorizeCollectionName => typed [
      ("model", model.map .string),
      ("dimensions", dimensions.map fun n => .nat n.toNat),
      ("baseUrl", baseUrl.map .string),
      ("sourceProperties", Json.unlessEmpty .string sources),
      ("vectorizeCollectionName", vectorizeCollectionName.map .bool)]
  | cohere model truncate sources => typed [
      ("model", model.map .string),
      ("truncate", truncate.map .string),
      ("sourceProperties", Json.unlessEmpty .string sources)]
  | transformers poolingStrategy inferenceUrl sources => typed [
      ("poolingStrategy", poolingStrategy.map .string),
      ("inferenceUrl", inferenceUrl.map .string),
      ("sourceProperties", Json.unlessEmpty .string sources)]
  | ollama model apiEndpoint sources => typed [
      ("model", some (.string model)),
      ("apiEndpoint", apiEndpoint.map .string),
      ("sourceProperties", Json.unlessEmpty .string sources)]
  | clip inferenceUrl imageFields textFields => typed [
      ("inferenceUrl", inferenceUrl.map .string),
      ("imageFields", Json.unlessEmpty .string imageFields),
      ("textFields", Json.unlessEmpty .string textFields)]
  | centroid references method => typed [
      ("referenceProperties", some (.list .string references)),
      ("method", method.map .string)]

/-- The names of the parameters of a vectorizer, by its module. -/
def parameters : String → List String
  | "text2vec-openai" =>
    ["model", "dimensions", "baseUrl", "sourceProperties", "vectorizeCollectionName"]
  | "text2vec-cohere" => ["model", "truncate", "sourceProperties"]
  | "text2vec-transformers" => ["poolingStrategy", "inferenceUrl", "sourceProperties"]
  | "text2vec-ollama" => ["model", "apiEndpoint", "sourceProperties"]
  | "multi2vec-clip" => ["inferenceUrl", "imageFields", "textFields"]
  | "ref2vec-centroid" => ["referenceProperties", "method"]
  | _ => []

/-- The vectorizer of a document. -/
def ofJson? (j : Json) : Option Vectorizer := do
  let ms ← j.tagged? parameters
  match ← ms.required "type" Json.string? with
  | "none" => return .selfProvided
  | "text2vec-openai" =>
    let model ← ms.optional "model" Json.string?
    let dimensions ← ms.optional "dimensions" Json.uint32?
    let baseUrl ← ms.optional "baseUrl" Json.string?
    let sources ← ms.withDefault "sourceProperties" Json.texts? []
    let vectorizeCollectionName ← ms.optional "vectorizeCollectionName" Json.bool?
    return .openAi model dimensions baseUrl sources vectorizeCollectionName
  | "text2vec-cohere" =>
    let model ← ms.optional "model" Json.string?
    let truncate ← ms.optional "truncate" Json.string?
    let sources ← ms.withDefault "sourceProperties" Json.texts? []
    return .cohere model truncate sources
  | "text2vec-transformers" =>
    let poolingStrategy ← ms.optional "poolingStrategy" Json.string?
    let inferenceUrl ← ms.optional "inferenceUrl" Json.string?
    let sources ← ms.withDefault "sourceProperties" Json.texts? []
    return .transformers poolingStrategy inferenceUrl sources
  | "text2vec-ollama" =>
    let model ← ms.required "model" Json.string?
    let apiEndpoint ← ms.optional "apiEndpoint" Json.string?
    let sources ← ms.withDefault "sourceProperties" Json.texts? []
    return .ollama model apiEndpoint sources
  | "multi2vec-clip" =>
    let inferenceUrl ← ms.optional "inferenceUrl" Json.string?
    let imageFields ← ms.withDefault "imageFields" Json.texts? []
    let textFields ← ms.withDefault "textFields" Json.texts? []
    return .clip inferenceUrl imageFields textFields
  | "ref2vec-centroid" =>
    let references ← ms.required "referenceProperties" Json.texts?
    let method ← ms.optional "method" Json.string?
    return .centroid references method
  | _ => none

end Vectorizer

namespace NamedVector

/-- The document of a named vector. -/
def toJson (v : NamedVector) : Json :=
  .record [
    ("name", some (.string v.name)),
    ("vectorizer", some v.vectorizer.toJson),
    ("vectorIndexConfig", some v.index.toJson)]

/-- The named vector of a document. -/
def ofJson? (j : Json) : Option NamedVector := do
  let ms ← j.fields? ["name", "vectorizer", "vectorIndexConfig"]
  let name ← ms.required "name" Json.string?
  let vectorizer ← ms.required "vectorizer" Vectorizer.ofJson?
  let index ← ms.required "vectorIndexConfig" VectorIndex.ofJson?
  return ⟨name, vectorizer, index⟩

end NamedVector

end CollectionSchema
