import CollectionSchema.Proofs.Names.Stability
import CollectionSchema.Proofs.Synthesis.Unfolding

/-!
Identifiers that are the names they give.

A field whose property no directive names can be given that name for its identifier. Its property
keeps the name only if camel case leaves the name alone, and that is up to where its capitals stand.

* `Field.propertyName_canonical_eq_iff`: which properties keep their names.
* `Synthesizer.synthesize_canonical`: where all do, the schema is the same.
* `canonical_names`: the two together, for a model that has a schema.
-/

namespace CollectionSchema

open Text

variable {n : Nat}

/-! ### Canonical identifiers -/

namespace Field

variable {f g : Field n}

/-- The field with the name of its property for its identifier, where the identifier gives that
name. -/
def canonical (f : Field n) : Field n :=
  if f.becomesProperty ∧ f.property.name = none then { f with ident := f.propertyName } else f

theorem canonical_of_not_becomesProperty (other : ¬ f.becomesProperty) : f.canonical = f :=
  if_neg fun h => other h.1

@[simp]
theorem valueType_canonical (f : Field n) : f.canonical.valueType = f.valueType := by
  unfold canonical
  split <;> rfl

@[simp]
theorem property_canonical (f : Field n) : f.canonical.property = f.property := by
  unfold canonical
  split <;> rfl

@[simp]
theorem becomesProperty_canonical (f : Field n) :
    f.canonical.becomesProperty = f.becomesProperty := by
  unfold canonical
  split <;> rfl

/-- The name is kept if it is given, or else if camel case leaves it alone. -/
theorem propertyName_canonical_eq_iff (property : f.becomesProperty) :
    f.canonical.propertyName = f.propertyName ↔
      (f.property.name = none → Stable (camelCase f.ident)) := by
  cases given : f.property.name with
  | some name => simp [propertyName, given]
  | none =>
      have ident : f.canonical.ident = camelCase f.ident := by
        rw [canonical, if_pos ⟨property, given⟩, propertyName, given, Option.getD_none]
      rw [propertyName, property_canonical, propertyName, given, ident, Option.getD_none,
        Option.getD_none, camelCase_eq_self_iff]
      simp

end Field

namespace Model

variable {m : Model n}

/-- The model with the names of properties for the identifiers that give them. -/
def canonical (m : Model n) : Model n :=
  { m with fields := m.fields.map Field.canonical }

theorem propertyFields_canonical (m : Model n) :
    m.canonical.propertyFields = m.propertyFields.map Field.canonical := by
  rw [propertyFields, canonical, propertyFields, List.filter_map]
  congr 2
  funext f
  exact f.becomesProperty_canonical

end Model

/-! ### Schemas of canonical models -/

namespace Synthesis

variable {types : Catalog n} {maxDepth : Nat} {typeName : String} {entered : List String}
  {f g : Field n} {p : Property}

/-- Once there is a property, the identifier of its field is in its name only. -/
theorem propertyOf_of_sameName (type : g.valueType = f.valueType)
    (directive : g.property = f.property) (name : g.propertyName = f.propertyName)
    (built : propertyOf maxDepth types typeName entered f = .ok p) :
    propertyOf maxDepth types typeName entered g = .ok p := by
  obtain ⟨kind, nested, settled, rfl, inner⟩ := propertyOf_eq_ok_iff.mp built
  have kindOf : g.kind? = f.kind? := by rw [Field.kind?, Field.kind?, type, directive]
  refine propertyOf_eq_ok_iff.mpr ⟨kind, nested, ?_, ?_, ?_⟩
  · rw [settleKind_eq_ok_iff] at settled ⊢
    rwa [kindOf, directive]
  · rw [describe, describe, directive, name]
  · split at inner
    case isTrue object =>
      rw [if_pos object, nestedPropertiesOf_eq_ok_iff, type]
      exact nestedPropertiesOf_eq_ok_iff.mp inner
    case isFalse plain => rwa [if_neg plain]

/-- A field with canonical identifier becomes what the field does, if that has the same name. -/
theorem memberOf_canonical {member : Member n}
    (kept : f.becomesProperty → f.canonical.propertyName = f.propertyName)
    (built : memberOf maxDepth types typeName f = .ok member) :
    memberOf maxDepth types typeName f.canonical = .ok member := by
  by_cases property : f.becomesProperty
  · rw [memberOf_of_property property, map_eq_ok_iff] at built
    obtain ⟨p, built, rfl⟩ := built
    rw [memberOf_of_property (f.becomesProperty_canonical.trans property), map_eq_ok_iff]
    exact ⟨p, propertyOf_of_sameName f.valueType_canonical f.property_canonical (kept property)
      built, rfl⟩
  · rwa [Field.canonical_of_not_becomesProperty property]

end Synthesis

namespace Synthesizer

variable {s : Synthesizer} {types : Catalog n} {m : Model n} {c : Collection}

open Synthesis

/-- Where all properties keep their names, nothing in the schema changes. -/
theorem synthesize_canonical (built : s.synthesize types m = .ok c)
    (kept : ∀ f ∈ m.propertyFields, f.canonical.propertyName = f.propertyName) :
    s.synthesize types m.canonical = .ok c := by
  obtain ⟨c', declared, -⟩ := bind_eq_ok_iff.mp built
  obtain ⟨_, -, others⟩ := bind_eq_ok_iff.mp declared
  obtain ⟨ms, traversed, -⟩ := bind_eq_ok_iff.mp others
  have members : m.canonical.fields.mapM (memberOf s.config.maxDepth types m.typeName) =
      m.fields.mapM (memberOf s.config.maxDepth types m.typeName) := by
    rw [Model.canonical, List.mapM_map]
    refine mapM_congr fun f mem => ?_
    obtain ⟨member, -, one⟩ := exists_of_mem_forall₂ (mapM_eq_ok_iff.mp traversed) mem
    rw [Function.comp, one]
    exact memberOf_canonical (fun property => kept f (List.mem_filter.mpr ⟨mem, property⟩)) one
  rw [← built]
  -- The members are all that is made of the fields.
  refine congrArg (· >>= fun c => customizeCollection (s.lookup m) m.directive c) ?_
  refine congrArg (checkSettings m.directive >>= ·) (funext fun _ => ?_)
  exact congrArg (· >>= _) members

/-- A schema of the canonical model has the names of the canonical fields. -/
theorem propertyNames_canonical {c' : Collection} (unhooked : m.directive.hook = none)
    (built : s.synthesize types m.canonical = .ok c') :
    c'.properties.map (·.name) = m.propertyFields.map fun f => f.canonical.propertyName := by
  have declares : s.Declares types m.canonical c' := synthesize_declares unhooked built
  rw [declares.propertyNames_eq, m.propertyFields_canonical, List.map_map]
  rfl

end Synthesizer

/-- **Names are canonical as far as their capitals show where words begin.**

The properties of a schema have the names that the fields give, and with these for the identifiers
that gave them, the model has a schema with the same names exactly if each name is stable: letters
and digits, and every character that has another lowercase is uppercase and comes after a lowercase
letter, or after an uppercase and before a lowercase one. Then it is the same schema. These are the
names that camel case leaves alone, and they include the name that an ASCII identifier gives in
which the first word has a letter, and each word between it and the last one has a letter that is
not its initial. -/
theorem canonical_names (s : Synthesizer) (types : Catalog n) (m : Model n) (c : Collection)
    (unhooked : m.directive.hook = none) (built : s.synthesize types m = .ok c) :
    c.properties.map (·.name) = m.propertyFields.map Field.propertyName ∧
      ((∃ c', s.synthesize types m.canonical = .ok c' ∧
          c'.properties.map (·.name) = c.properties.map (·.name)) ↔
        ∀ f ∈ m.propertyFields, f.property.name = none → Stable (camelCase f.ident)) ∧
      ((∀ f ∈ m.propertyFields, f.property.name = none → Stable (camelCase f.ident)) →
        s.synthesize types m.canonical = .ok c) ∧
      (∀ ident, camelCase (camelCase ident) = camelCase ident ↔ Stable (camelCase ident)) ∧
      ∀ ident, WordsApart ident → camelCase (camelCase ident) = camelCase ident := by
  have names := (Synthesizer.synthesize_declares unhooked built).propertyNames_eq
  have kept : (∀ f ∈ m.propertyFields, f.canonical.propertyName = f.propertyName) ↔
      ∀ f ∈ m.propertyFields, f.property.name = none → Stable (camelCase f.ident) :=
    forall₂_congr fun f mem => Field.propertyName_canonical_eq_iff (List.of_mem_filter mem)
  refine ⟨names, ⟨?_, fun stable => ?_⟩, fun stable => ?_, fun ident => ?_, fun ident apart => ?_⟩
  · rintro ⟨c', built', same⟩
    rw [names, Synthesizer.propertyNames_canonical unhooked built'] at same
    exact kept.mp fun f mem => List.map_inj_left.mp same f mem
  · exact ⟨c, Synthesizer.synthesize_canonical built (kept.mpr stable), rfl⟩
  · exact Synthesizer.synthesize_canonical built (kept.mpr stable)
  · exact camelCase_eq_self_iff _
  · exact apart.camelCase_camelCase

/-! ### A pixel -/

def pixelTypes : Catalog 0 := fun id => id.elim0

/-- A pixel of a frame, with its channels in a field. -/
def pixel (channels : Field 0) : Model 0 where
  typeName := "Pixel"
  fields := [{ ident := "frame_id", valueType := .scalar .string }, channels]

def channels (name : Option String) : Field 0 where
  ident := "r_g_b"
  valueType := .scalar .string
  property := { name }

def pixelSchema : Collection where
  name := "Pixel"
  properties := [{ name := "frameId", kinds := [.text] }, { name := "rgb", kinds := [.text] }]

/-- With a name for its channels, the pixel keeps its schema. -/
theorem canonical_names_pixel :
    ({} : Synthesizer).synthesize pixelTypes (pixel (channels (some "rgb"))) = .ok pixelSchema ∧
      ({} : Synthesizer).synthesize pixelTypes (pixel (channels (some "rgb"))).canonical =
        .ok pixelSchema ∧
      camelCase (camelCase "frame_id") = camelCase "frame_id" := by
  have built : ({} : Synthesizer).synthesize pixelTypes (pixel (channels (some "rgb"))) =
      .ok pixelSchema := by
    decide +kernel
  obtain ⟨-, -, same, -, apart⟩ := canonical_names {} pixelTypes _ _ rfl built
  refine ⟨built, same ?_, apart "frame_id" (by decide +kernel)⟩
  decide +kernel

/-- Without one, the channels are renamed when the model is given their name. -/
theorem not_canonical_pixel :
    ¬ (∀ (m : Model 0) (c : Collection), m.HookFree →
        ({} : Synthesizer).synthesize pixelTypes m = .ok c →
          ∃ c', ({} : Synthesizer).synthesize pixelTypes m.canonical = .ok c' ∧
            c'.properties.map (·.name) = c.properties.map (·.name)) ∧
      camelCase (camelCase "r_g_b") ≠ camelCase "r_g_b" := by
  have built : ∃ c, ({} : Synthesizer).synthesize pixelTypes (pixel (channels none)) = .ok c ∧
      c.properties.map (·.name) = ["frameId", "rGB"] := by
    exact ⟨{ name := "Pixel"
             properties := [
               { name := "frameId", kinds := [.text] }, { name := "rGB", kinds := [.text] }] },
      by decide +kernel, rfl⟩
  refine ⟨fun stable => ?_, by decide +kernel⟩
  obtain ⟨c, built, names⟩ := built
  obtain ⟨c', built', same⟩ := stable _ c (by decide) built
  have renamed := Synthesizer.propertyNames_canonical rfl built'
  rw [same, names] at renamed
  exact absurd renamed (by decide +kernel)

end CollectionSchema
