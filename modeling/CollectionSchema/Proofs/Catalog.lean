import CollectionSchema.Conformance.Check
import CollectionSchema.Proofs.Synthesis.Success

/-!
What is read of nested types.

`types.Agrees types'`: the types of two catalogs go by the same names, outside and inside, and
have the same property fields. Everything else may differ: what is said of them as collections,
their hooks, and the fields that would become vectors or references of a model of its own, even
those that would become both.

* `Agrees.propertyOf_eq`, `Agrees.checkProperties_eq`: the two recursions through nested types
  read nothing but what agreeing catalogs share.
* `synthesize_and_report_of_agrees`: schemas, errors and reports are the same under both.
-/

namespace CollectionSchema

variable {n : Nat}

/-- The types of two catalogs have the same names and the same property fields. -/
structure Catalog.Agrees (types types' : Catalog n) : Prop where
  typeName : ∀ id, (types' id).typeName = (types id).typeName
  modelName : ∀ id, (types' id).model.typeName = (types id).model.typeName
  propertyFields : ∀ id, (types' id).model.propertyFields = (types id).model.propertyFields

namespace Catalog.Agrees

variable {types types' : Catalog n} (agrees : types.Agrees types')
include agrees

theorem text_eq (type : ValueType n) : type.text types' = type.text types := by
  induction type with
  | scalar s => rfl
  | optional inner ih => simp only [ValueType.text, ih]
  | list inner ih => simp only [ValueType.text, ih]
  | nested id => simp only [ValueType.text, NestedType.shortName, agrees.typeName]
  | foreign name => rfl

/-! ### Synthesis -/

section Synthesis

open Synthesis

variable {maxDepth : Nat} {typeName : String} {entered : List String}

theorem settleKind_eq (f : Field n) :
    settleKind types' typeName f = settleKind types typeName f := by
  unfold settleKind
  rw [agrees.text_eq]

/-- The property of a field is built of the property fields of the types it nests. -/
theorem propertyOf_eq (f : Field n) :
    propertyOf maxDepth types' typeName entered f =
      propertyOf maxDepth types typeName entered f := by
  induction entered using types.entered_induction generalizing typeName f with
  | step entered ih =>
      have nested (kind : DataKind) : nestedPropertiesOf maxDepth types' kind entered f =
          nestedPropertiesOf maxDepth types kind entered f := by
        rw [nestedPropertiesOf, nestedPropertiesOf]
        cases f.valueType.nested? with
        | none => rfl
        | some id =>
            simp only [agrees.typeName, agrees.modelName, agrees.propertyFields]
            by_cases under : (types id).typeName ∈ entered
            · simp [under]
            · have inner : propertyOf maxDepth types' (types id).model.typeName
                  ((types id).typeName :: entered) =
                    propertyOf maxDepth types (types id).model.typeName
                      ((types id).typeName :: entered) :=
                funext fun g => ih id under g
              simp only [inner]
      rw [propertyOf, propertyOf, agrees.settleKind_eq]
      simp only [nested]

theorem memberOf_eq (f : Field n) :
    memberOf maxDepth types' typeName f = memberOf maxDepth types typeName f := by
  unfold memberOf
  rw [agrees.propertyOf_eq]

theorem synthesize_eq (s : Synthesizer) (m : Model n) :
    s.synthesize types' m = s.synthesize types m := by
  have members : memberOf s.config.maxDepth types' m.typeName =
      memberOf s.config.maxDepth types m.typeName := funext fun f => agrees.memberOf_eq f
  rw [Synthesizer.synthesize, Synthesizer.synthesize, Synthesizer.declared, Synthesizer.declared,
    members]

end Synthesis

/-! ### Conformance -/

section Conformance

open Conformance

variable {entered : List String} {path : String}

/-- Fields are checked against nested properties by the property fields of the types they
nest. -/
theorem checkField_eq (f : Field n) (partner : Option Property) :
    checkField types' entered path f partner = checkField types entered path f partner := by
  induction entered using types.entered_induction generalizing path f partner with
  | step entered ih =>
      cases partner with
      | none => rw [checkField, checkField]
      | some p =>
          have level (id : Fin n) (under : (types id).typeName ∉ entered)
              (fields : List (Field n)) (ps : List Property) :
              checkProperties types' ((types id).typeName :: entered) path fields ps =
                checkProperties types ((types id).typeName :: entered) path fields ps := by
            rw [checkProperties, checkProperties]
            simp only [ih id under]
          rw [checkField, checkField]
          simp only [agrees.text_eq, agrees.typeName, agrees.propertyFields]
          cases f.valueType.nested? with
          | none => rfl
          | some id =>
              by_cases under : (types id).typeName ∈ entered
              · simp only [under, dite_true]
              · simp only [under, dite_false, level id under]

theorem checkProperties_eq (parent : String) (fields : List (Field n)) (ps : List Property) :
    checkProperties types' entered parent fields ps =
      checkProperties types entered parent fields ps := by
  rw [checkProperties, checkProperties]
  simp only [agrees.checkField_eq]

theorem report_eq (m : Model n) (c : Collection) : m.report types' c = m.report types c := by
  rw [Model.report, Model.report, agrees.checkProperties_eq]

end Conformance

end Catalog.Agrees

/-- **Nested types matter only through their names and property fields**: under agreeing catalogs
every model has the same schema or the same error, whatever the defaults and the hooks, and fits
every schema alike. -/
theorem synthesize_and_report_of_agrees {types types' : Catalog n} (agrees : types.Agrees types')
    (s : Synthesizer) (m : Model n) (c : Collection) :
    s.synthesize types' m = s.synthesize types m ∧ m.report types' c = m.report types c ∧
      m.fit types' c = m.fit types c := by
  have reports := agrees.report_eq m c
  refine ⟨agrees.synthesize_eq s m, reports, ?_⟩
  rw [Model.fit, Model.fit, reports]

/-! ### A song and its artist

An artist as the type of a nested object, and the same artist with all that would keep it from
being a model of its own: settings out of range, a hook that is nowhere, a vector of an unknown
source, a reference of the name of a property, and a field with both directives. -/

def artistFields : List (Field 1) := [
  { ident := "name", valueType := .scalar .string },
  { ident := "members", valueType := .list (.nested ⟨0, Nat.one_pos⟩) }]

def artistTypes : Catalog 1 := fun _ =>
  { typeName := "Artist", model := { typeName := "Artist", fields := artistFields } }

def busyArtistTypes : Catalog 1 := fun _ =>
  { typeName := "Artist"
    model :=
      { typeName := "Artist"
        directive := { replicationFactor := -2, hook := some { name := "lost" } }
        fields :=
          [{ ident := "name", valueType := .scalar .uuid,
             reference := some { target := "Name" } }] ++
            artistFields ++
            [{ ident := "voice", valueType := .list (.scalar .float32),
               vector := some { vectorizer := .openAi, sources := ["unknown"] } },
              { ident := "both", valueType := .scalar .uuid, vector := some {},
                reference := some { target := "Artist" } }]
        hooks := .ofList [("renamed", .vector fun _ v => v)] } }

def song : Model 1 where
  typeName := "Song"
  fields := [
    { ident := "title", valueType := .scalar .string },
    { ident := "artist", valueType := .nested ⟨0, Nat.one_pos⟩ }]

/-- The schema of a song, but for the kind of the artist's name. -/
def songSchema (name : DataKind) : Collection where
  name := "Song"
  properties := [
    .ofKind "title" .text,
    { name := "artist", kinds := [.object],
      nested := [.ofKind "name" name, .ofKind "members" .objectArray] }]

theorem synthesize_and_report_song :
    artistTypes.Agrees busyArtistTypes ∧
      ({} : Synthesizer).synthesize busyArtistTypes song = .ok (songSchema .text) ∧
      (song.report busyArtistTypes (songSchema .int)).errors.map Mismatch.path =
        ["artist.name"] := by
  have agrees : artistTypes.Agrees busyArtistTypes :=
    ⟨fun _ => rfl, fun _ => rfl, fun _ => rfl⟩
  obtain ⟨schemas, reports, -⟩ :=
    synthesize_and_report_of_agrees agrees {} song (songSchema .int)
  refine ⟨agrees, schemas.trans ?_, ?_⟩
  · decide +kernel
  · rw [reports]
    decide +kernel

end CollectionSchema
