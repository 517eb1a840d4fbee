import CollectionSchema.Hook.Basic

/-!
Directives: what the author of a model says about how fields and the model itself become part of a
schema, where that differs from what follows from names and types.

The integer settings of a collection are `leftToServer` or fit in 32 bits;
`CollectionDirective.violations` lists those that do neither.
-/

namespace CollectionSchema

/-- What is said of a field that becomes a property. -/
structure PropertyDirective where
  name : Option String := none
  kind : Option DataKind := none
  description : Option String := none
  filterable : Option Bool := none
  searchable : Option Bool := none
  rangeFilters : Option Bool := none
  tokenization : Option Tokenization := none
deriving DecidableEq, Repr

/-- The modules that a vector directive can choose. -/
inductive VectorizerChoice where
  | selfProvided
  | openAi
  | cohere
  | transformers
  | ollama
  | clip
  | centroid
deriving DecidableEq, Repr

/-- What is said of a field that becomes a vector. The sources are properties, or references for
the centroid module, or the text fields of the image module. -/
structure VectorDirective where
  name : Option String := none
  vectorizer : VectorizerChoice := .selfProvided
  model : Option String := none
  sources : List String := []
  imageFields : List String := []
  dimensions : Option UInt32 := none
  baseUrl : Option String := none
  index : Option VectorIndex := none
  distance : Option Distance := none
  quantizer : Option Quantizer := none
  hook : Option HookName := none
deriving DecidableEq, Repr

/-- What is said of a field that becomes a reference. -/
structure ReferenceDirective where
  target : String
  name : Option String := none
  description : Option String := none
deriving DecidableEq, Repr

/-- The integer that leaves a setting to the server. -/
def leftToServer : Int := -1

/-- The greatest integer that fits in 32 bits. -/
def maxSetting : Int := 0xffffffff

/-- Whether an integer may be given as a setting. -/
def validSetting (value : Int) : Bool :=
  value == leftToServer || (decide (0 ≤ value) && decide (value ≤ maxSetting))

/-- What is said of how a collection is split. -/
structure ShardingDirective where
  desiredCount : Int := leftToServer
  virtualPerPhysical : Int := leftToServer
  key : Option String := none
deriving DecidableEq, Repr

/-- What is said of the collection as a whole. -/
structure CollectionDirective where
  name : Option String := none
  description : Option String := none
  sharding : ShardingDirective := {}
  replicationFactor : Int := leftToServer
  asyncReplication : Option Bool := none
  deletionStrategy : Option DeletionStrategy := none
  multiTenancy : Bool := false
  autoTenantCreation : Option Bool := none
  autoTenantActivation : Option Bool := none
  invertedIndex : Option InvertedIndex := none
  hook : Option HookName := none
deriving DecidableEq, Repr

/-- A setting that is out of range. -/
structure Violation where
  path : String
  message : String
deriving DecidableEq, Repr

/-- What is said of an integer that may not be given as a setting. -/
def settingMessage (value : Int) : String :=
  s!"Expected {leftToServer} for the server default or a value in 0..={maxSetting}. Got: {value}"

/-- The violation of one setting, if it is one. -/
def checkSetting (path : String) (value : Int) : List Violation :=
  if validSetting value then [] else [⟨path, settingMessage value⟩]

namespace CollectionDirective

/-- The settings that are out of range, in the order of their paths. -/
def violations (d : CollectionDirective) : List Violation :=
  checkSetting "replication_factor" d.replicationFactor ++
    checkSetting "sharding.desired_count" d.sharding.desiredCount ++
    checkSetting "sharding.virtual_per_physical" d.sharding.virtualPerPhysical

end CollectionDirective

end CollectionSchema
