import CollectionSchema.Conformance.Report

/-!
The documents of reports.
-/

namespace CollectionSchema

namespace Mismatch

/-- The document of an error. -/
def toJson (m : Mismatch) : Json :=
  .record [
    ("propertyName", some (.string m.path)),
    ("message", some (.string m.message)),
    ("kind", some (Enumeration.toJson m.kind)),
    ("expectedType", m.expected.map Enumeration.toJson),
    ("actualType", m.actual.map Enumeration.toJson)]

/-- The error of a document. -/
def ofJson? (j : Json) : Option Mismatch := do
  let ms ← j.fields? ["propertyName", "message", "kind", "expectedType", "actualType"]
  let path ← ms.required "propertyName" Json.string?
  let message ← ms.required "message" Json.string?
  let kind ← ms.required "kind" Enumeration.ofJson?
  let expected ← ms.optional "expectedType" Enumeration.ofJson?
  let actual ← ms.optional "actualType" Enumeration.ofJson?
  return ⟨path, message, kind, expected, actual⟩

end Mismatch

namespace Warning

/-- The document of a warning. -/
def toJson (w : Warning) : Json :=
  .record [
    ("propertyName", some (.string w.path)),
    ("message", some (.string w.message)),
    ("kind", some (Enumeration.toJson w.kind))]

/-- The warning of a document. -/
def ofJson? (j : Json) : Option Warning := do
  let ms ← j.fields? ["propertyName", "message", "kind"]
  let path ← ms.required "propertyName" Json.string?
  let message ← ms.required "message" Json.string?
  let kind ← ms.required "kind" Enumeration.ofJson?
  return ⟨path, message, kind⟩

end Warning

namespace Report

/-- The document of a report. -/
def toJson (r : Report) : Json :=
  .object [
    ("errors", .list Mismatch.toJson r.errors),
    ("warnings", .list Warning.toJson r.warnings)]

/-- The report of a document. -/
def ofJson? (j : Json) : Option Report := do
  let ms ← j.fields? ["errors", "warnings"]
  let errors ← ms.required "errors" (Json.list? Mismatch.ofJson?)
  let warnings ← ms.required "warnings" (Json.list? Warning.ofJson?)
  return ⟨errors, warnings⟩

end Report

end CollectionSchema
