import CollectionSchema.Number.Single
import CollectionSchema.Json.Enumeration

/-!
Settings of a collection: keyword index, replication, sharding and tenants. A setting that is unset
is left to the server.
-/

namespace CollectionSchema

/-- Parameters of the keyword ranking. -/
structure Bm25 where
  b : Single
  k1 : Single
deriving DecidableEq, Repr

namespace Bm25

/-- The ranking parameters that are used where none are given: `b = 0.75` and `k1 = 1.2`. -/
def default : Bm25 :=
  ⟨Single.ofDecimal ⟨false, 75, -2⟩, Single.ofDecimal ⟨false, 12, -1⟩⟩

end Bm25

/-- Words that the keyword index leaves out. -/
structure Stopwords where
  preset : Option String := none
  additions : List String := []
  removals : List String := []
deriving DecidableEq, Repr

/-- Settings of the keyword index. -/
structure InvertedIndex where
  bm25 : Option Bm25 := none
  cleanupIntervalSeconds : Option UInt32 := none
  indexNullState : Option Bool := none
  indexPropertyLength : Option Bool := none
  indexTimestamps : Option Bool := none
  stopwords : Option Stopwords := none
deriving DecidableEq, Repr

/-- What happens to objects that one replica deleted and another did not. -/
inductive DeletionStrategy where
  | noAutomatedResolution
  | deleteOnConflict
  | timeBasedResolution
deriving DecidableEq, Repr

namespace DeletionStrategy

/-- The word for a strategy. -/
def name : DeletionStrategy → String
  | noAutomatedResolution => "NO_AUTOMATED_RESOLUTION"
  | deleteOnConflict => "DELETE_ON_CONFLICT"
  | timeBasedResolution => "TIME_BASED_RESOLUTION"

instance : Enumeration DeletionStrategy where
  values := [noAutomatedResolution, deleteOnConflict, timeBasedResolution]
  word := name

end DeletionStrategy

/-- Settings of the copies of a collection. -/
structure Replication where
  factor : Option UInt32 := none
  asyncEnabled : Option Bool := none
  deletionStrategy : Option DeletionStrategy := none
deriving DecidableEq, Repr, Inhabited

/-- Settings of the parts a collection is split into. -/
structure Sharding where
  desiredCount : Option UInt32 := none
  virtualPerPhysical : Option UInt32 := none
  key : Option String := none
deriving DecidableEq, Repr, Inhabited

namespace Sharding

/-- Whether everything is left to the server. -/
def isEmpty (s : Sharding) : Bool :=
  s.desiredCount.isNone && s.virtualPerPhysical.isNone && s.key.isNone

end Sharding

/-- Whether each tenant has objects of its own, fixed when the collection is created, and how
tenants come to be and become active. -/
structure MultiTenancy where
  enabled : Bool := false
  autoTenantCreation : Option Bool := none
  autoTenantActivation : Option Bool := none
deriving DecidableEq, Repr, Inhabited

end CollectionSchema
