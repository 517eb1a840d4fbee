import CollectionSchema.Collection.Settings
import CollectionSchema.Property
import CollectionSchema.Text.Words
import CollectionSchema.Vector.Basic

/-!
Collections: the schema of one collection of objects, with its properties, references and vectors
in declaration order.

Properties and references share one scope of names, vectors have another.
`Collection.nameClashes` lists the names that come more than once in their scope, each at the
place where it comes the second time.
-/

namespace CollectionSchema

/-- The schema of a collection. -/
structure Collection where
  name : String
  description : Option String := none
  properties : List Property := []
  references : List Reference := []
  vectors : List NamedVector := []
  invertedIndex : Option InvertedIndex := none
  replication : Replication := {}
  sharding : Option Sharding := none
  multiTenancy : MultiTenancy := {}
deriving DecidableEq, Repr, Inhabited

/-- A scope in which names are to be unique. -/
inductive NameScope where
  | property
  | vector
deriving DecidableEq, Repr

/-- The word for a scope. -/
def NameScope.name : NameScope → String
  | property => "property"
  | vector => "vector"

/-- A name that comes more than once in its scope. -/
structure NameClash where
  scope : NameScope
  name : String
deriving DecidableEq, Repr

/-- The names that come again, each once, at the place where it comes the second time. The names
before the list are given apart. -/
def repeatedAfter (earlier : List String) : List String → List String
  | [] => []
  | name :: rest =>
    let later := repeatedAfter (name :: earlier) rest
    if earlier.count name = 1 then name :: later else later

/-- The names that come more than once in a list, in the order of their second places. -/
def repeated (names : List String) : List String :=
  repeatedAfter [] names

namespace Collection

/-! ### Lookup -/

/-- The first property of a name. -/
def property? (c : Collection) (name : String) : Option Property :=
  c.properties.find? (·.name == name)

/-- The first reference of a name. -/
def reference? (c : Collection) (name : String) : Option Reference :=
  c.references.find? (·.name == name)

/-- The first vector of a name. -/
def vector? (c : Collection) (name : String) : Option NamedVector :=
  c.vectors.find? (·.name == name)

/-- The first property whose name is the given one up to the case of ASCII letters. -/
def propertyIgnoringCase? (c : Collection) (name : String) : Option Property :=
  c.properties.find? fun p => Text.sameIgnoringCase p.name name

/-- The first reference whose name is the given one up to the case of ASCII letters. -/
def referenceIgnoringCase? (c : Collection) (name : String) : Option Reference :=
  c.references.find? fun r => Text.sameIgnoringCase r.name name

/-- The first vector whose name is the given one up to the case of ASCII letters. -/
def vectorIgnoringCase? (c : Collection) (name : String) : Option NamedVector :=
  c.vectors.find? fun v => Text.sameIgnoringCase v.name name

/-! ### Uniqueness of names -/

/-- The names of properties and then of references, which share a scope. -/
def memberNames (c : Collection) : List String :=
  c.properties.map (·.name) ++ c.references.map (·.name)

/-- The names of the vectors. -/
def vectorNames (c : Collection) : List String :=
  c.vectors.map (·.name)

/-- The names that are not unique in their scope, those of members before those of vectors. -/
def nameClashes (c : Collection) : List NameClash :=
  (repeated c.memberNames).map (NameClash.mk .property) ++
    (repeated c.vectorNames).map (NameClash.mk .vector)

end Collection

end CollectionSchema
