import CollectionSchema.Migration.Change

/-!
Migration plans: the changes that lead from the schema a collection has to the schema it should
have.

`Migration.changes` lists them in a fixed order: description, properties, references, vectors,
replication, tenants. Within a family, additions follow the order of the target, removals the order
of the current schema, and modifications the order of the target. Members are matched by exact name.
The settings of vectors, the targets of references and the keyword index are not compared.
-/

namespace CollectionSchema

namespace Migration

/-! ### Additions and removals -/

/-- The kinds of a property as a value. -/
def kindsValue (p : Property) : Json :=
  .list Enumeration.toJson p.kinds

/-- The primary kind of a property in a text. -/
def kindLabel (p : Property) : String :=
  match p.kind? with
  | some kind => kind.name
  | none => "no kind"

/-- A property comes to be. -/
def addProperty (p : Property) : Change :=
  .safe .addProperty s!"Add property '{p.name}' ({kindLabel p})" none (some (kindsValue p))
    (some (.property p))

/-- A property goes, with its data. -/
def removeProperty (p : Property) : Change :=
  .breaking .removeProperty s!"Remove property '{p.name}'; data stored in it will be lost"
    (some (kindsValue p)) none (some (.property p))

/-- A reference comes to be. -/
def addReference (r : Reference) : Change :=
  .safe .addReference s!"Add reference '{r.name}' to '{r.target}'" none (some (.string r.target))
    (some (.reference r))

/-- A reference goes, with its links. -/
def removeReference (r : Reference) : Change :=
  .breaking .removeReference s!"Remove reference '{r.name}'; links stored in it will be lost"
    (some (.string r.target)) none (some (.reference r))

/-- A vector comes to be. -/
def addVector (v : NamedVector) : Change :=
  .safe .addVector s!"Add vector '{v.name}' ({v.vectorizer.moduleName})" none
    (some (.string v.vectorizer.moduleName)) (some (.vector v))

/-- A vector goes, with its embeddings. -/
def removeVector (v : NamedVector) : Change :=
  .breaking .removeVector s!"Remove vector '{v.name}'; its stored embeddings will be lost"
    (some (.string v.vectorizer.moduleName)) none (some (.vector v))

/-! ### Modifications -/

/-- The primary kind of a property changes, so that it is made anew. -/
def modifyPropertyType (existing p : Property) : Change :=
  .breaking .modifyPropertyType
    (s!"Change type of property '{p.name}' from {kindLabel existing} to {kindLabel p}; " ++
      "the property must be recreated and its data will be lost")
    (some (kindsValue existing)) (some (kindsValue p)) (some (.property p))

/-- The description of a property changes. -/
def updatePropertyDescription (existing p : Property) : Change :=
  .safe .updatePropertyDescription s!"Update description of property '{p.name}'"
    (existing.description.map .string) (p.description.map .string) (some (.property p))

/-- The description of a reference changes. -/
def updateReferenceDescription (existing r : Reference) : Change :=
  .safe .updateReferenceDescription s!"Update description of reference '{r.name}'"
    (existing.description.map .string) (r.description.map .string) (some (.reference r))

/-- What becomes of a property that both schemas have. A change of kind hides a change of
description. -/
def modifyProperty (existing p : Property) : List Change :=
  if existing.kind? ≠ p.kind? then [modifyPropertyType existing p]
  else if existing.description ≠ p.description then [updatePropertyDescription existing p]
  else []

/-- What becomes of a reference that both schemas have. -/
def modifyReference (existing r : Reference) : List Change :=
  if existing.description ≠ r.description then [updateReferenceDescription existing r] else []

/-! ### The families -/

/-- The change of the description of the collection. -/
def descriptionChanges (current target : Collection) : List Change :=
  if current.description ≠ target.description then
    [.safe .updateDescription s!"Update description of collection '{target.name}'"
      (current.description.map .string) (target.description.map .string)]
  else []

/-- The changes of the properties. -/
def propertyChanges (current target : Collection) : List Change :=
  (target.properties.filter fun p => (current.property? p.name).isNone).map addProperty ++
    (current.properties.filter fun p => (target.property? p.name).isNone).map removeProperty ++
    target.properties.flatMap fun p =>
      match current.property? p.name with
      | none => []
      | some existing => modifyProperty existing p

/-- The changes of the references. -/
def referenceChanges (current target : Collection) : List Change :=
  (target.references.filter fun r => (current.reference? r.name).isNone).map addReference ++
    (current.references.filter fun r => (target.reference? r.name).isNone).map removeReference ++
    target.references.flatMap fun r =>
      match current.reference? r.name with
      | none => []
      | some existing => modifyReference existing r

/-- The changes of the vectors. -/
def vectorChanges (current target : Collection) : List Change :=
  (target.vectors.filter fun v => (current.vector? v.name).isNone).map addVector ++
    (current.vectors.filter fun v => (target.vector? v.name).isNone).map removeVector

/-- The change of the number of replicas. A target that sets none leaves it as it is. -/
def replicationChanges (current target : Collection) : List Change :=
  match target.replication.factor with
  | none => []
  | some factor =>
    if current.replication.factor ≠ some factor then
      [.safe .updateReplication s!"Update replication factor to {factor.toNat}"
        (current.replication.factor.map fun n => .nat n.toNat) (some (.nat factor.toNat))]
    else []

/-- The settings on automatic tenants as a value. -/
def tenantSettings (m : MultiTenancy) : Json :=
  .object [
    ("autoTenantCreation", Json.orNull .bool m.autoTenantCreation),
    ("autoTenantActivation", Json.orNull .bool m.autoTenantActivation)]

/-- The change of the tenant settings. Whether there are tenants is fixed at creation, so that
switching it is breaking and hides the other settings. -/
def tenantChanges (current target : Collection) : List Change :=
  let before := current.multiTenancy
  let after := target.multiTenancy
  if before.enabled ≠ after.enabled then
    let verb := if after.enabled then "Enable" else "Disable"
    [.breaking .updateMultiTenancy
      (s!"{verb} multi-tenancy; it cannot change after creation and " ++
        "the collection must be recreated")
      (some (.bool before.enabled)) (some (.bool after.enabled))]
  else if before.autoTenantCreation ≠ after.autoTenantCreation ∨
      before.autoTenantActivation ≠ after.autoTenantActivation then
    [.safe .updateMultiTenancy "Update automatic tenant creation and activation"
      (some (tenantSettings before)) (some (tenantSettings after))]
  else []

/-- The changes that create a collection. -/
def creation (target : Collection) : List Change :=
  target.properties.map addProperty ++ target.references.map addReference ++
    target.vectors.map addVector

/-- The changes that lead from one schema to another. -/
def transition (current target : Collection) : List Change :=
  descriptionChanges current target ++ propertyChanges current target ++
    referenceChanges current target ++ vectorChanges current target ++
    replicationChanges current target ++ tenantChanges current target

/-- The changes that lead from the current schema, if there is one, to the target. -/
def changes (current : Option Collection) (target : Collection) : List Change :=
  match current with
  | none => creation target
  | some current => transition current target

end Migration

/-- The changes planned for a collection. -/
structure Plan where
  collection : String
  changes : List Change
deriving DecidableEq, Repr

namespace Plan

/-- The plan that leads from the current schema, if there is one, to the target. -/
def toReach (current : Option Collection) (target : Collection) : Plan :=
  ⟨target.name, Migration.changes current target⟩

/-- Whether there is nothing to do. -/
def isEmpty (p : Plan) : Bool :=
  p.changes.isEmpty

/-- Whether every change keeps all stored data. -/
def isSafe (p : Plan) : Bool :=
  p.changes.all (·.isSafe)

/-- The changes that keep all stored data. -/
def safeChanges (p : Plan) : List Change :=
  p.changes.filter (·.isSafe)

/-- The changes that lose stored data. -/
def breakingChanges (p : Plan) : List Change :=
  p.changes.filter (·.isBreaking)

/-- The text shown for a plan: a headline and a line for each change. -/
def render (p : Plan) : String :=
  if p.isEmpty then
    s!"Collection '{p.collection}' is up to date"
  else
    let count := p.changes.length
    let breaking := p.breakingChanges.length
    let headline :=
      s!"Migration plan for '{p.collection}': {count} change(s), {breaking} breaking"
    headline ++ String.join (p.changes.map fun c => "\n  " ++ c.render)

end Plan

end CollectionSchema
