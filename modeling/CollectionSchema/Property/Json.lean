import CollectionSchema.Property

/-!
The documents of properties and references.

Members that are unset are left out, as is an empty list of nested properties.
`Property.toJson` and `Property.ofJson?` follow the nesting of properties and of documents.
-/

namespace CollectionSchema

namespace Property

mutual

/-- The document of a property. -/
def toJson : Property → Json
  | ⟨name, kinds, description, filterable, searchable, rangeFilters, tokenization, nested⟩ =>
    .record [
      ("name", some (.string name)),
      ("dataType", some (.list Enumeration.toJson kinds)),
      ("description", description.map .string),
      ("indexFilterable", filterable.map .bool),
      ("indexSearchable", searchable.map .bool),
      ("indexRangeFilters", rangeFilters.map .bool),
      ("tokenization", tokenization.map Enumeration.toJson),
      ("nestedProperties", if nested.isEmpty then none else some (.array (listToJson nested)))]

/-- The documents of a list of properties. -/
def listToJson : List Property → List Json
  | [] => []
  | p :: rest => p.toJson :: listToJson rest

end

/-- The property with the given members and nested properties. -/
def ofMembers? (ms : Members) (nested? : Option (List Property)) : Option Property := do
  let name ← ms.required "name" Json.string?
  let kinds ← ms.required "dataType" (Json.list? Enumeration.ofJson?)
  let description ← ms.optional "description" Json.string?
  let filterable ← ms.optional "indexFilterable" Json.bool?
  let searchable ← ms.optional "indexSearchable" Json.bool?
  let rangeFilters ← ms.optional "indexRangeFilters" Json.bool?
  let tokenization ← ms.optional "tokenization" Enumeration.ofJson?
  let nested ← nested?
  return ⟨name, kinds, description, filterable, searchable, rangeFilters, tokenization, nested⟩

/-- The names of the fields of a property, in order. -/
def fieldNames : List String :=
  ["name", "dataType", "description", "indexFilterable", "indexSearchable", "indexRangeFilters",
    "tokenization", "nestedProperties"]

mutual

/-- The property of a document. -/
def ofJson? : Json → Option Property
  | .object members => ofMembers? members (nestedOfMembers? members)
  | .array items => do
    let ms ← Json.inOrder? fieldNames items
    ofMembers? ms (nestedInOrder? fieldNames items)
  | _ => none

/-- The nested properties among the members of a document; none when the member is missing. -/
def nestedOfMembers? : List (String × Json) → Option (List Property)
  | [] => some []
  | (key, value) :: rest =>
    if key = "nestedProperties" then listOfJson? value else nestedOfMembers? rest

/-- The nested properties among the items of a document that gives its fields in order. -/
def nestedInOrder? : List String → List Json → Option (List Property)
  | key :: keys, value :: rest =>
    if key = "nestedProperties" then listOfJson? value else nestedInOrder? keys rest
  | _, _ => some []

/-- The properties of a list document. -/
def listOfJson? : Json → Option (List Property)
  | .array items => ofItems? items
  | _ => none

/-- The properties of the items of a list document. -/
def ofItems? : List Json → Option (List Property)
  | [] => some []
  | j :: rest => do
    let p ← ofJson? j
    let ps ← ofItems? rest
    return p :: ps

end

theorem nestedInOrder?_eq (names : List String) (items : List Json) :
    nestedInOrder? names items = nestedOfMembers? (names.zip items) := by
  induction items generalizing names with
  | nil => cases names <;> simp [nestedInOrder?, nestedOfMembers?]
  | cons j rest ih =>
    cases names with
    | nil => simp [nestedInOrder?, nestedOfMembers?]
    | cons key keys => rw [nestedInOrder?, List.zip_cons_cons, nestedOfMembers?, ih]

theorem listToJson_eq_map (ps : List Property) : listToJson ps = ps.map toJson := by
  induction ps with
  | nil => rfl
  | cons p rest ih => rw [listToJson, ih, List.map_cons]

theorem ofItems?_eq_mapM (items : List Json) : ofItems? items = items.mapM ofJson? := by
  induction items with
  | nil => rfl
  | cons j rest ih => rw [ofItems?, ih, List.mapM_cons]

end Property

namespace Reference

/-- The document of a reference. -/
def toJson (r : Reference) : Json :=
  .record [
    ("name", some (.string r.name)),
    ("targetCollection", some (.string r.target)),
    ("description", r.description.map .string)]

/-- The reference of a document. -/
def ofJson? (j : Json) : Option Reference := do
  let ms ← j.fields? ["name", "targetCollection", "description"]
  let name ← ms.required "name" Json.string?
  let target ← ms.required "targetCollection" Json.string?
  let description ← ms.optional "description" Json.string?
  return ⟨name, target, description⟩

end Reference

end CollectionSchema
