import CollectionSchema.Json.Enumeration

/-!
Vector indexes: the three index families, their distance metric and their quantizer.

A setting that is unset is left to the server. A dynamic index is flat at first and graph-based
later; it has settings for both stages, and a quantizer given to it goes to both.
-/

namespace CollectionSchema

/-- A distance metric between vectors. -/
inductive Distance where
  | cosine
  | dot
  | l2Squared
  | hamming
  | manhattan
deriving DecidableEq, Repr

namespace Distance

/-- The word for a metric. -/
def name : Distance → String
  | cosine => "cosine"
  | dot => "dot"
  | l2Squared => "l2-squared"
  | hamming => "hamming"
  | manhattan => "manhattan"

instance : Enumeration Distance where
  values := [cosine, dot, l2Squared, hamming, manhattan]
  word := name

end Distance

/-- How vectors are compressed: by products, bits, scalars or rotations. -/
inductive Quantizer where
  | product (segments centroids : Option UInt32)
  | binary (cache : Option Bool)
  | scalar (trainingLimit : Option UInt32)
  | rotational (bits : Option UInt8)
deriving DecidableEq, Repr

/-- Settings of a graph-based index. -/
structure HnswIndex where
  distance : Option Distance := none
  ef : Option Int32 := none
  efConstruction : Option UInt32 := none
  maxConnections : Option UInt32 := none
  quantizer : Option Quantizer := none
deriving DecidableEq, Repr, Inhabited

/-- Settings of a flat index. -/
structure FlatIndex where
  distance : Option Distance := none
  vectorCacheMaxObjects : Option UInt64 := none
  quantizer : Option Quantizer := none
deriving DecidableEq, Repr, Inhabited

/-- Settings of an index that turns from flat to graph-based at a number of objects. -/
structure DynamicIndex where
  distance : Option Distance := none
  threshold : Option UInt64 := none
  hnsw : HnswIndex := {}
  flat : FlatIndex := {}
deriving DecidableEq, Repr, Inhabited

/-- A vector index of one of the three families. -/
inductive VectorIndex where
  | hnsw (index : HnswIndex)
  | flat (index : FlatIndex)
  | dynamic (index : DynamicIndex)
deriving DecidableEq, Repr

/-- The three index families. -/
inductive IndexFamily where
  | hnsw
  | flat
  | dynamic
deriving DecidableEq, Repr, Inhabited

namespace VectorIndex

/-- The family of an index. -/
def family : VectorIndex → IndexFamily
  | hnsw _ => .hnsw
  | flat _ => .flat
  | dynamic _ => .dynamic

/-- The distance metric of an index. -/
def distance : VectorIndex → Option Distance
  | hnsw index => index.distance
  | flat index => index.distance
  | dynamic index => index.distance

/-- Sets the distance metric. The stages of a dynamic index keep theirs. -/
def setDistance (i : VectorIndex) (distance : Distance) : VectorIndex :=
  match i with
  | hnsw index => hnsw { index with distance := some distance }
  | flat index => flat { index with distance := some distance }
  | dynamic index => dynamic { index with distance := some distance }

/-- Sets the quantizer, on both stages of a dynamic index. -/
def setQuantizer (i : VectorIndex) (quantizer : Quantizer) : VectorIndex :=
  match i with
  | hnsw index => hnsw { index with quantizer := some quantizer }
  | flat index => flat { index with quantizer := some quantizer }
  | dynamic index =>
    dynamic
      { index with
        hnsw := { index.hnsw with quantizer := some quantizer }
        flat := { index.flat with quantizer := some quantizer } }

@[simp]
theorem family_setDistance (i : VectorIndex) (distance : Distance) :
    (i.setDistance distance).family = i.family := by
  cases i <;> rfl

@[simp]
theorem distance_setDistance (i : VectorIndex) (distance : Distance) :
    (i.setDistance distance).distance = some distance := by
  cases i <;> rfl

@[simp]
theorem family_setQuantizer (i : VectorIndex) (quantizer : Quantizer) :
    (i.setQuantizer quantizer).family = i.family := by
  cases i <;> rfl

@[simp]
theorem distance_setQuantizer (i : VectorIndex) (quantizer : Quantizer) :
    (i.setQuantizer quantizer).distance = i.distance := by
  cases i <;> rfl

end VectorIndex

namespace IndexFamily

/-- The word for a family. -/
def name : IndexFamily → String
  | hnsw => "hnsw"
  | flat => "flat"
  | dynamic => "dynamic"

/-- The second word that a family may be read from. -/
def upperName : IndexFamily → String
  | hnsw => "HNSW"
  | flat => "FLAT"
  | dynamic => "DYNAMIC"

/-- The families in order. -/
def all : List IndexFamily :=
  [hnsw, flat, dynamic]

/-- The family that a word stands for. -/
def ofName? (s : String) : Option IndexFamily :=
  all.find? fun family => family.name == s || family.upperName == s

/-- An index of the family with only its distance metric set. -/
def plainIndex (family : IndexFamily) (distance : Distance) : VectorIndex :=
  match family with
  | hnsw => .hnsw { distance := some distance }
  | flat => .flat { distance := some distance }
  | dynamic => .dynamic { distance := some distance }

@[simp]
theorem family_plainIndex (family : IndexFamily) (distance : Distance) :
    (family.plainIndex distance).family = family := by
  cases family <;> rfl

@[simp]
theorem distance_plainIndex (family : IndexFamily) (distance : Distance) :
    (family.plainIndex distance).distance = some distance := by
  cases family <;> rfl

end IndexFamily

end CollectionSchema
