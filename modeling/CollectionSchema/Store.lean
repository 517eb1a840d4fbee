import CollectionSchema.ErrorCode
import CollectionSchema.Migration.Plan
import CollectionSchema.Table

/-!
Where the current schemas of collections come from.

A store holds schemas under their own names. Any other source is a function that may fail;
`Source.plan` plans against either and passes a failure on, with its code and its trace flag.
-/

namespace CollectionSchema

/-- Schemas held under their own names. -/
abbrev Store := Table Collection

namespace Store

/-- The store without schemas. -/
def empty : Store := []

/-- The schema held under a name. -/
def fetch (s : Store) (name : String) : Option Collection :=
  s.get? name

/-- Holds a schema under its own name. The first component is the schema it replaces. -/
def insert (s : Store) (schema : Collection) : Option Collection × Store :=
  (s.fetch schema.name, s.set schema.name schema)

/-- Drops the schema under a name. The first component is the schema dropped. -/
def remove (s : Store) (name : String) : Option Collection × Store :=
  (s.fetch name, s.erase name)

/-- The number of schemas held. -/
def size (s : Store) : Nat :=
  s.length

/-- Whether no schema is held. -/
def isEmpty (s : Store) : Bool :=
  s.size == 0

end Store

/-- Why a source could not give a schema. -/
structure SourceError where
  code : ErrorCode
  message : String
  /-- Whether the failure is worth a trace. -/
  traced : Bool := true
deriving DecidableEq, Repr

/-- A source gives the schema of a collection, or none if the collection does not exist. -/
abbrev Source := String → Except SourceError (Option Collection)

/-- The source that a store is. It never fails. -/
def Store.source (s : Store) : Source :=
  fun name => .ok (s.fetch name)

/-- The source that always fails in one way. -/
def Source.failing (e : SourceError) : Source :=
  fun _ => .error e

/-- A plan that could not be made because the current schema could not be fetched. -/
structure PlanError where
  collection : String
  cause : SourceError
deriving DecidableEq, Repr

namespace PlanError

/-- The code of the cause. -/
def code (e : PlanError) : ErrorCode :=
  e.cause.code

/-- The trace flag of the cause. -/
def traced (e : PlanError) : Bool :=
  e.cause.traced

/-- The text of the failure. -/
def message (e : PlanError) : String :=
  s!"Failed to fetch current schema of '{e.collection}': {e.cause.message}"

end PlanError

/-- The plan that leads from the schema a source gives to the target. -/
def Source.plan (source : Source) (target : Collection) : Except PlanError Plan :=
  match source target.name with
  | .ok current => .ok (Plan.toReach current target)
  | .error cause => .error ⟨target.name, cause⟩

end CollectionSchema
