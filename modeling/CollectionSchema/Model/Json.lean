import CollectionSchema.Collection.Json
import CollectionSchema.Model.ValueType

/-!
The documents of places on the earth and of phone numbers.
-/

namespace CollectionSchema

namespace GeoCoordinate

/-- The document of a place. -/
def toJson (g : GeoCoordinate) : Json :=
  .object [("latitude", g.latitude.toJson), ("longitude", g.longitude.toJson)]

/-- The place of a document. -/
def ofJson? (j : Json) : Option GeoCoordinate := do
  let ms ← j.fields? ["latitude", "longitude"]
  let latitude ← ms.required "latitude" Single.ofJson?
  let longitude ← ms.required "longitude" Single.ofJson?
  return ⟨latitude, longitude⟩

end GeoCoordinate

namespace PhoneNumber

/-- The document of a phone number. -/
def toJson (p : PhoneNumber) : Json :=
  .record [
    ("input", some (.string p.input)),
    ("defaultCountry", p.defaultCountry.map .string)]

/-- The phone number of a document. -/
def ofJson? (j : Json) : Option PhoneNumber := do
  let ms ← j.fields? ["input", "defaultCountry"]
  let input ← ms.required "input" Json.string?
  let defaultCountry ← ms.optional "defaultCountry" Json.string?
  return ⟨input, defaultCountry⟩

end PhoneNumber

end CollectionSchema
