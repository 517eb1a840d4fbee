import CollectionSchema.Collection.Basic
import CollectionSchema.Property.Json
import CollectionSchema.Vector.Json

/-!
The documents of collections and of their settings.

The lists of properties, references and vectors are always written, and so are the sections on
replication and tenants. A section that a document leaves out has its default, while `null` stands
for an unset value only.
-/

namespace CollectionSchema

namespace Bm25

/-- The document of ranking parameters. -/
def toJson (p : Bm25) : Json :=
  .record [("b", some p.b.toJson), ("k1", some p.k1.toJson)]

/-- The ranking parameters of a document. -/
def ofJson? (j : Json) : Option Bm25 := do
  let ms ← j.fields? ["b", "k1"]
  let b ← ms.required "b" Single.ofJson?
  let k1 ← ms.required "k1" Single.ofJson?
  return ⟨b, k1⟩

end Bm25

namespace Stopwords

/-- The document of a stopword list. -/
def toJson (s : Stopwords) : Json :=
  .record [
    ("preset", s.preset.map .string),
    ("additions", Json.unlessEmpty .string s.additions),
    ("removals", Json.unlessEmpty .string s.removals)]

/-- The stopword list of a document. -/
def ofJson? (j : Json) : Option Stopwords := do
  let ms ← j.fields? ["preset", "additions", "removals"]
  let preset ← ms.optional "preset" Json.string?
  let additions ← ms.withDefault "additions" Json.texts? []
  let removals ← ms.withDefault "removals" Json.texts? []
  return ⟨preset, additions, removals⟩

end Stopwords

namespace InvertedIndex

/-- The document of the settings of a keyword index. -/
def toJson (i : InvertedIndex) : Json :=
  .record [
    ("bm25", i.bm25.map Bm25.toJson),
    ("cleanupIntervalSeconds", i.cleanupIntervalSeconds.map fun n => .nat n.toNat),
    ("indexNullState", i.indexNullState.map .bool),
    ("indexPropertyLength", i.indexPropertyLength.map .bool),
    ("indexTimestamps", i.indexTimestamps.map .bool),
    ("stopwords", i.stopwords.map Stopwords.toJson)]

/-- The settings of a keyword index in a document. -/
def ofJson? (j : Json) : Option InvertedIndex := do
  let ms ← j.fields?
    ["bm25", "cleanupIntervalSeconds", "indexNullState", "indexPropertyLength", "indexTimestamps",
      "stopwords"]
  let bm25 ← ms.optional "bm25" Bm25.ofJson?
  let cleanupIntervalSeconds ← ms.optional "cleanupIntervalSeconds" Json.uint32?
  let indexNullState ← ms.optional "indexNullState" Json.bool?
  let indexPropertyLength ← ms.optional "indexPropertyLength" Json.bool?
  let indexTimestamps ← ms.optional "indexTimestamps" Json.bool?
  let stopwords ← ms.optional "stopwords" Stopwords.ofJson?
  return ⟨bm25, cleanupIntervalSeconds, indexNullState, indexPropertyLength, indexTimestamps,
    stopwords⟩

end InvertedIndex

namespace Replication

/-- The document of replication settings. -/
def toJson (r : Replication) : Json :=
  .record [
    ("factor", r.factor.map fun n => .nat n.toNat),
    ("asyncEnabled", r.asyncEnabled.map .bool),
    ("deletionStrategy", r.deletionStrategy.map Enumeration.toJson)]

/-- The replication settings of a document. -/
def ofJson? (j : Json) : Option Replication := do
  let ms ← j.fields? ["factor", "asyncEnabled", "deletionStrategy"]
  let factor ← ms.optional "factor" Json.uint32?
  let asyncEnabled ← ms.optional "asyncEnabled" Json.bool?
  let deletionStrategy ← ms.optional "deletionStrategy" Enumeration.ofJson?
  return ⟨factor, asyncEnabled, deletionStrategy⟩

end Replication

namespace Sharding

/-- The document of sharding settings. -/
def toJson (s : Sharding) : Json :=
  .record [
    ("desiredCount", s.desiredCount.map fun n => .nat n.toNat),
    ("virtualPerPhysical", s.virtualPerPhysical.map fun n => .nat n.toNat),
    ("key", s.key.map .string)]

/-- The sharding settings of a document. -/
def ofJson? (j : Json) : Option Sharding := do
  let ms ← j.fields? ["desiredCount", "virtualPerPhysical", "key"]
  let desiredCount ← ms.optional "desiredCount" Json.uint32?
  let virtualPerPhysical ← ms.optional "virtualPerPhysical" Json.uint32?
  let key ← ms.optional "key" Json.string?
  return ⟨desiredCount, virtualPerPhysical, key⟩

end Sharding

namespace MultiTenancy

/-- The document of tenant settings. -/
def toJson (m : MultiTenancy) : Json :=
  .record [
    ("enabled", some (.bool m.enabled)),
    ("autoTenantCreation", m.autoTenantCreation.map .bool),
    ("autoTenantActivation", m.autoTenantActivation.map .bool)]

/-- The tenant settings of a document. -/
def ofJson? (j : Json) : Option MultiTenancy := do
  let ms ← j.fields? ["enabled", "autoTenantCreation", "autoTenantActivation"]
  let enabled ← ms.withDefault "enabled" Json.bool? false
  let autoTenantCreation ← ms.optional "autoTenantCreation" Json.bool?
  let autoTenantActivation ← ms.optional "autoTenantActivation" Json.bool?
  return ⟨enabled, autoTenantCreation, autoTenantActivation⟩

end MultiTenancy

namespace Collection

/-- The document of a collection. -/
def toJson (c : Collection) : Json :=
  .record [
    ("name", some (.string c.name)),
    ("description", c.description.map .string),
    ("properties", some (.list Property.toJson c.properties)),
    ("references", some (.list Reference.toJson c.references)),
    ("vectors", some (.list NamedVector.toJson c.vectors)),
    ("invertedIndexConfig", c.invertedIndex.map InvertedIndex.toJson),
    ("replicationConfig", some c.replication.toJson),
    ("shardingConfig", c.sharding.map Sharding.toJson),
    ("multiTenancyConfig", some c.multiTenancy.toJson)]

/-- The collection of a document. -/
def ofJson? (j : Json) : Option Collection := do
  let ms ← j.fields?
    ["name", "description", "properties", "references", "vectors", "invertedIndexConfig",
      "replicationConfig", "shardingConfig", "multiTenancyConfig"]
  let name ← ms.required "name" Json.string?
  let description ← ms.optional "description" Json.string?
  let properties ← ms.withDefault "properties" (Json.list? Property.ofJson?) []
  let references ← ms.withDefault "references" (Json.list? Reference.ofJson?) []
  let vectors ← ms.withDefault "vectors" (Json.list? NamedVector.ofJson?) []
  let invertedIndex ← ms.optional "invertedIndexConfig" InvertedIndex.ofJson?
  let replication ← ms.withDefault "replicationConfig" Replication.ofJson? {}
  let sharding ← ms.optional "shardingConfig" Sharding.ofJson?
  let multiTenancy ← ms.withDefault "multiTenancyConfig" MultiTenancy.ofJson? {}
  return ⟨name, description, properties, references, vectors, invertedIndex, replication, sharding,
    multiTenancy⟩

end Collection

end CollectionSchema
