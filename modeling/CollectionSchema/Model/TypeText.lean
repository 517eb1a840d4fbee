import CollectionSchema.Model.ValueType

/-!
Value types by the text of the type they stand for. They belong to the outer layer that answers
requests, in which types other than scalars are written as one of the texts in `compoundTexts`.

Dates with and without a time are all date-times. Maps and free-form values are foreign.
-/

namespace CollectionSchema

namespace ValueType

variable {n : Nat}

/-- A type for which the schema has no kind: a map, by the name shown for it. -/
def map : ValueType n :=
  .foreign "HashMap"

/-- An ordered map. -/
def orderedMap : ValueType n :=
  .foreign "BTreeMap"

/-- A value of any form. -/
def freeForm : ValueType n :=
  .foreign "serde_json::Value"

/-- The texts of types other than plain scalars, with what they stand for. -/
def compoundTexts : List (String × ValueType n) := [
  ("NaiveDate", .scalar .dateTime),
  ("NaiveDateTime", .scalar .dateTime),
  ("DateTime<Utc>", .scalar .dateTime),
  ("HashMap<String, String>", map),
  ("BTreeMap<String, i64>", orderedMap),
  ("serde_json::Value", freeForm),
  ("Option<String>", .optional (.scalar .string)),
  ("Vec<String>", .list (.scalar .string)),
  ("Vec<u8>", .list (.scalar .uint8)),
  ("Option<Vec<u8>>", .optional (.list (.scalar .uint8))),
  ("Vec<Option<u8>>", .list (.optional (.scalar .uint8))),
  ("Vec<Vec<u8>>", .list (.list (.scalar .uint8))),
  ("Vec<Vec<String>>", .list (.list (.scalar .string))),
  ("Vec<f32>", .list (.scalar .float32)),
  ("Vec<Uuid>", .list (.scalar .uuid)),
  ("Option<HashMap<String, String>>", .optional map),
  ("Vec<serde_json::Value>", .list freeForm),
  ("Option<Option<i32>>", .optional (.optional (.scalar .int32)))]

/-- The value type that a text stands for. The scalar of date-times has no text of its own. -/
def ofTypeText? (text : String) : Option (ValueType n) :=
  match Scalar.ofText? text with
  | some .dateTime => none
  | some s => some (.scalar s)
  | none => compoundTexts.lookup text

end ValueType

end CollectionSchema
