import CollectionSchema.Conformance.Check
import CollectionSchema.Store
import CollectionSchema.Synthesis.Basic

/-!
Sessions: a synthesizer and a store, worked with step by step. A step that fails leaves the session
as it was. They belong to the outer layer that answers requests, where the steps come one after
another; what each step does is said of synthesizers and of stores by themselves.
-/

namespace CollectionSchema

/-- A synthesizer and the schemas that are held. -/
structure Session where
  synthesizer : Synthesizer := {}
  store : Store := Store.empty

namespace Session

variable {n : Nat}

/-- The plan for a target, against the schema that is held. -/
def plan (s : Session) (target : Collection) : Plan :=
  Plan.toReach (s.store.fetch target.name) target

/-- Synthesizes a model, plans the migration to it, and holds its schema. -/
def migrate (s : Session) (types : Catalog n) (m : Model n) :
    Except SynthesisError (Plan × Session) := do
  let target ← s.synthesizer.synthesize types m
  return (s.plan target, { s with store := (s.store.insert target).2 })

/-- As `migrate`, but the schema is held only if the plan is safe. -/
def migrateSafely (s : Session) (types : Catalog n) (m : Model n) :
    Except SynthesisError (Plan × Session) := do
  let (plan, migrated) ← s.migrate types m
  return (plan, if plan.isSafe then migrated else s)

/-- Checks a model against the schema held under a name, if there is one. -/
def fit (s : Session) (types : Catalog n) (m : Model n) (name : String) :
    Except SchemaMismatch (Option Report) :=
  match s.store.fetch name with
  | none => .ok none
  | some schema => (m.fit types schema).map some

/-- Changes the hooks of owners. -/
def updateOwners (s : Session) (update : HookOwners → HookOwners) : Session :=
  { s with synthesizer := { s.synthesizer with owners := update s.synthesizer.owners } }

end Session

end CollectionSchema
