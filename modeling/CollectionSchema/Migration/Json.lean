import CollectionSchema.Collection.Json
import CollectionSchema.Migration.Plan

/-!
The documents of changes and plans.

The member a change is about is a record of its kind and its own document. An old or new value
that a document gives as `null` is unset.
-/

namespace CollectionSchema

namespace ChangeSubject

/-- The document of the member a change is about. -/
def toJson : ChangeSubject → Json
  | property p => .object [("kind", .string "property"), ("descriptor", p.toJson)]
  | reference r => .object [("kind", .string "reference"), ("descriptor", r.toJson)]
  | vector v => .object [("kind", .string "vector"), ("descriptor", v.toJson)]

/-- The member of a document. -/
def ofJson? (j : Json) : Option ChangeSubject := do
  let ms ← j.fields? ["kind", "descriptor"]
  match ← ms.required "kind" Json.word? with
  | "property" => return .property (← ms.required "descriptor" Property.ofJson?)
  | "reference" => return .reference (← ms.required "descriptor" Reference.ofJson?)
  | "vector" => return .vector (← ms.required "descriptor" NamedVector.ofJson?)
  | _ => none

end ChangeSubject

namespace Change

/-- The document of a change. -/
def toJson (c : Change) : Json :=
  .record [
    ("changeType", some (Enumeration.toJson c.kind)),
    ("isSafe", some (.bool c.isSafe)),
    ("description", some (.string c.description)),
    ("oldValue", c.oldValue),
    ("newValue", c.newValue),
    ("subject", c.subject.map ChangeSubject.toJson)]

/-- The change of a document. -/
def ofJson? (j : Json) : Option Change := do
  let ms ← j.fields? ["changeType", "isSafe", "description", "oldValue", "newValue", "subject"]
  let kind ← ms.required "changeType" Enumeration.ofJson?
  let isSafe ← ms.required "isSafe" Json.bool?
  let description ← ms.required "description" Json.string?
  let oldValue ← ms.optional "oldValue" some
  let newValue ← ms.optional "newValue" some
  let subject ← ms.optional "subject" ChangeSubject.ofJson?
  return ⟨kind, isSafe, description, oldValue, newValue, subject⟩

end Change

namespace Plan

/-- The document of a plan, with its verdict, its counts and its text. -/
def toJson (p : Plan) : Json :=
  .object [
    ("collection", .string p.collection),
    ("changes", .list Change.toJson p.changes),
    ("isEmpty", .bool p.isEmpty),
    ("isSafe", .bool p.isSafe),
    ("safe", .nat p.safeChanges.length),
    ("breaking", .nat p.breakingChanges.length),
    ("display", .string p.render)]

end Plan

end CollectionSchema
