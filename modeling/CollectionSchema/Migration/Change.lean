import CollectionSchema.Collection.Basic
import CollectionSchema.Json.Basic

/-!
Changes: the single steps of a migration.

A change says what it does, whether it keeps stored data, which values it replaces, and which member
it is about. The text of a breaking change begins with a marker, so that it is not overlooked where
only texts are shown.
-/

namespace CollectionSchema

/-- What a change does. -/
inductive ChangeKind where
  | addProperty
  | removeProperty
  | modifyPropertyType
  | updatePropertyDescription
  | addReference
  | removeReference
  | updateReferenceDescription
  | addVector
  | removeVector
  | updateDescription
  | updateReplication
  | updateMultiTenancy
deriving DecidableEq, Repr

namespace ChangeKind

/-- The word for a kind of change. -/
def name : ChangeKind → String
  | addProperty => "add_property"
  | removeProperty => "remove_property"
  | modifyPropertyType => "modify_property_type"
  | updatePropertyDescription => "update_property_description"
  | addReference => "add_reference"
  | removeReference => "remove_reference"
  | updateReferenceDescription => "update_reference_description"
  | addVector => "add_vector"
  | removeVector => "remove_vector"
  | updateDescription => "update_description"
  | updateReplication => "update_replication"
  | updateMultiTenancy => "update_multi_tenancy"

instance : Enumeration ChangeKind where
  values := [addProperty, removeProperty, modifyPropertyType, updatePropertyDescription,
    addReference, removeReference, updateReferenceDescription, addVector, removeVector,
    updateDescription, updateReplication, updateMultiTenancy]
  word := name

end ChangeKind

/-- The member of a collection that a change is about. -/
inductive ChangeSubject where
  | property (property : Property)
  | reference (reference : Reference)
  | vector (vector : NamedVector)
deriving DecidableEq, Repr

/-- The name of the member. -/
def ChangeSubject.name : ChangeSubject → String
  | property p => p.name
  | reference r => r.name
  | vector v => v.name

/-- One step of a migration. -/
structure Change where
  kind : ChangeKind
  isSafe : Bool
  description : String
  oldValue : Option Json := none
  newValue : Option Json := none
  subject : Option ChangeSubject := none
deriving DecidableEq, Repr

namespace Change

/-- The first word of the text of every breaking change. -/
def breakingMarker : String :=
  "BREAKING"

/-- A change that keeps all stored data. -/
def safe (kind : ChangeKind) (description : String) (oldValue newValue : Option Json := none)
    (subject : Option ChangeSubject := none) : Change :=
  ⟨kind, true, description, oldValue, newValue, subject⟩

/-- A change that loses stored data. Its text is marked. -/
def breaking (kind : ChangeKind) (description : String) (oldValue newValue : Option Json := none)
    (subject : Option ChangeSubject := none) : Change :=
  ⟨kind, false, breakingMarker ++ ": " ++ description, oldValue, newValue, subject⟩

/-- Whether stored data is lost. -/
def isBreaking (c : Change) : Bool :=
  !c.isSafe

/-- The line shown for a change. -/
def render (c : Change) : String :=
  let verdict := if c.isSafe then "safe" else "unsafe"
  s!"[{verdict}] {c.description}"

end Change

end CollectionSchema
