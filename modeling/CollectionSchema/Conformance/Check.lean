import CollectionSchema.Conformance.Pairing
import CollectionSchema.Conformance.Report
import CollectionSchema.Model.Basic

/-!
Conformance: whether a model can be stored in a collection.

Fields are paired with the members of the schema by name at every level. The kinds of a field and
of its property must be equal. A nested type is followed into the nested properties unless it is
already being entered. What is left over on either side is a warning.
-/

namespace CollectionSchema

namespace Conformance

variable {n : Nat}

/-- The path of a name inside another path. -/
def pathTo (parent name : String) : String :=
  if parent.isEmpty then name else parent ++ "." ++ name

/-- The error of two kinds that differ. -/
def kindMismatch (path : String) (expected actual : DataKind) : Mismatch :=
  if expected.element = actual.element ∧ expected.isArray ≠ actual.isArray then
    { path
      message :=
        s!"Schema declares {expected.name} but the model field is {actual.name}; " ++
          "array and scalar values are not interchangeable"
      kind := .arrayMismatch
      expected := some expected
      actual := some actual }
  else
    { path
      message := s!"Schema declares {expected.name} but the model field is {actual.name}"
      kind := .typeMismatch
      expected := some expected
      actual := some actual }

/-- The error of a field without a kind. -/
def unsupported (path valueType : String) (expected : Option DataKind) : Mismatch :=
  { path
    message := s!"Field type {valueType} maps to no data kind"
    kind := .noKind
    expected }

/-- The warning of a field without a property. -/
def extraField (path ident : String) : Warning :=
  ⟨path, s!"Field '{ident}' has no property in the schema and will be ignored", .extraProperty⟩

/-- The warning of a property without a field. -/
def missingField (path name : String) : Warning :=
  ⟨path, s!"Property '{name}' is not populated by the model", .missingProperty⟩

/-- The warning of a reference field without a reference. -/
def extraReference (name : String) : Warning :=
  ⟨name, s!"Reference '{name}' is not defined on the collection and will be ignored",
    .extraProperty⟩

/-- The warning of a reference without a field. -/
def missingReference (name : String) : Warning :=
  ⟨name, s!"Reference '{name}' is not populated by the model", .missingProperty⟩

/-- The warning of a vector field without a vector. -/
def unknownVector (name : String) : Warning :=
  ⟨name, s!"Vector '{name}' is not defined on the collection", .unknownVector⟩

mutual

/-- Checks fields against the properties of one level. -/
def checkProperties (types : Catalog n) (entered : List String) (parent : String)
    (fields : List (Field n)) (properties : List Property) : Report :=
  let pairing := Pairing.ofNames (·.name) (fields.map Field.propertyName) properties
  let found := (fields.zip pairing.partners).map fun (f, partner) =>
    checkField types entered (pathTo parent f.propertyName) f partner
  let missing := pairing.unclaimed.map fun p => missingField (pathTo parent p.name) p.name
  Report.join found ++ { warnings := missing }
termination_by 2 * types.unentered entered + 1

/-- Checks a field against the property it is paired with. -/
def checkField (types : Catalog n) (entered : List String) (path : String) (f : Field n)
    (partner : Option Property) : Report :=
  match partner with
  | none => .ofWarning (extraField path f.ident)
  | some p =>
    match f.kind?, p.kind? with
    | none, expected => .ofError (unsupported path (f.valueType.text types) expected)
    | some _, none => {}
    | some actual, some expected =>
      if expected ≠ actual then
        .ofError (kindMismatch path expected actual)
      else if !actual.isObject || p.nested.isEmpty then
        {}
      else
        match f.valueType.nested? with
        | none => {}
        | some id =>
          if _h : (types id).typeName ∈ entered then
            {}
          else
            checkProperties types ((types id).typeName :: entered) path
              (types id).model.propertyFields p.nested
termination_by 2 * types.unentered entered
decreasing_by
  have := types.unentered_cons_lt _h
  omega

end

/-- The names of the fields that become vectors. A field with both directives is one of them. -/
def vectorNames (m : Model n) : List String :=
  m.fields.filterMap fun f => f.vector.map f.vectorName

/-- The names of the fields that become references. -/
def referenceNames (m : Model n) : List String :=
  m.fields.filterMap fun f => if f.vector.isSome then none else f.reference.map f.referenceName

/-- The names that got no partner. -/
def unpaired {α : Type} (names : List String) (pairing : Pairing α) : List String :=
  ((names.zip pairing.partners).filter fun (_, partner) => partner.isNone).map (·.1)

/-- Checks the vectors of a model against those of a collection. -/
def checkVectors (m : Model n) (c : Collection) : Report :=
  let names := vectorNames m
  { warnings := (unpaired names (Pairing.ofNames (·.name) names c.vectors)).map unknownVector }

/-- Checks the references of a model against those of a collection. -/
def checkReferences (m : Model n) (c : Collection) : Report :=
  let names := referenceNames m
  let pairing := Pairing.ofNames (·.name) names c.references
  { warnings :=
      (unpaired names pairing).map extraReference ++
        pairing.unclaimed.map fun r => missingReference r.name }

end Conformance

namespace Model

variable {n : Nat}

open Conformance

/-- Checks a model against a collection: properties, then vectors, then references. -/
def report (types : Catalog n) (m : Model n) (c : Collection) : Report :=
  checkProperties types [] "" m.propertyFields c.properties ++ checkVectors m c ++
    checkReferences m c

/-- The report of a model that fits a collection, and the failure of one that does not. -/
def fit (types : Catalog n) (m : Model n) (c : Collection) :
    Except SchemaMismatch Report :=
  match (m.report types c).verdict with
  | .ok report => .ok report
  | .error mismatch => .error (mismatch.about c.name)

end Model

end CollectionSchema
