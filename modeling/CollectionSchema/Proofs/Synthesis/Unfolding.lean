import CollectionSchema.Conformance.Check
import CollectionSchema.Proofs.Synthesis.Success

/-!
A synthesized schema is the unfolding of its model.

`Field.unfolded` says what a field becomes without saying how it is found: the
nested properties of an object field are the unfoldings of the fields of its
nested type, unless a type of that name is already being entered. It depends on
the types on the way to the field and on nothing else, so that no field has a say
in what its siblings become. `Model.Reaches` lists the fields that are met on the
way, each with the types entered before it.

* `eq_unfolded_of_propertyOf`: a property that is built for a field is its unfolding.
* `vectorizerOf_eq_ok_iff`: a vectorizer that is built is the one asked for, and it
  is built when the parameters suit its module.
* `synthesize_unfolds`: the properties, references and vectors of a schema are the
  unfoldings of the fields of its model, in order, and so at every depth.
-/

namespace CollectionSchema

variable {n : Nat} {types : Catalog n} {entered : List String} {f : Field n}

/-! ### Unfolding -/

namespace Field

/-- The nested type that a field opens: that of an object field, unless a type of
its name has been entered. -/
def opens? (types : Catalog n) (entered : List String) (f : Field n) : Option (Fin n) :=
  if f.kind?.any DataKind.isObject then
    f.valueType.nested?.filter fun id => (types id).typeName ∉ entered
  else none

theorem opens?_of_kind {kind : DataKind} (hasKind : f.kind? = some kind) :
    f.opens? types entered =
      if kind.isObject then f.valueType.nested?.filter fun id => (types id).typeName ∉ entered
      else none := by
  simp [opens?, hasKind]

theorem opens?_eq_some {kind : DataKind} {id : Fin n} (hasKind : f.kind? = some kind)
    (object : kind.isObject) (refers : f.valueType.nested? = some id)
    (fresh : (types id).typeName ∉ entered) : f.opens? types entered = some id := by
  rw [opens?_of_kind hasKind, if_pos object, refers, Option.filter_some, if_pos (by simpa)]

theorem fresh_of_opens? {id : Fin n} (opens : f.opens? types entered = some id) :
    (types id).typeName ∉ entered := by
  unfold opens? at opens
  split at opens
  · simpa using (Option.filter_eq_some_iff.mp opens).2
  · cases opens

theorem refers_of_opens? {id : Fin n} (opens : f.opens? types entered = some id) :
    f.valueType.nested? = some id := by
  unfold opens? at opens
  split at opens
  · exact (Option.filter_eq_some_iff.mp opens).1
  · cases opens

/-- What a field becomes as a property, the types `entered` being under way. -/
def unfolded (types : Catalog n) (entered : List String) (f : Field n) : Property :=
  { name := f.propertyName
    kinds := f.kind?.toList
    description := f.property.description
    filterable := f.property.filterable
    searchable := f.property.searchable
    rangeFilters := f.property.rangeFilters
    tokenization := f.property.tokenization
    nested :=
      match _opens : f.opens? types entered with
      | none => []
      | some id =>
        (types id).model.propertyFields.map (unfolded types ((types id).typeName :: entered)) }
termination_by types.unentered entered
decreasing_by exact types.unentered_cons_lt (fresh_of_opens? _opens)

theorem unfolded_eq_describe {kind : DataKind} (hasKind : f.kind? = some kind) :
    f.unfolded types entered = Synthesis.describe f kind (f.unfolded types entered).nested := by
  rw [unfolded, Synthesis.describe, hasKind]
  rfl

theorem nested_unfolded_of_closed (closed : f.opens? types entered = none) :
    (f.unfolded types entered).nested = [] := by
  rw [unfolded]
  split <;> simp_all

theorem nested_unfolded_of_opens {id : Fin n} (opens : f.opens? types entered = some id) :
    (f.unfolded types entered).nested =
      (types id).model.propertyFields.map (unfolded types ((types id).typeName :: entered)) := by
  rw [unfolded]
  split <;> simp_all

end Field

/-! ### The property of a field -/

namespace Synthesis

variable {maxDepth : Nat} {typeName : String} {p : Property}

/-- A field has a property just when it has a kind that suits it, an object field
has a nested type, and the fields of the type it opens have properties. -/
theorem propertyOf_eq_ok_iff_opens :
    propertyOf maxDepth types typeName entered f = .ok p ↔
      ∃ kind nested, settleKind types typeName f = .ok kind ∧ p = describe f kind nested ∧
        (kind.isObject → f.valueType.nested?.isSome) ∧
          match f.opens? types entered with
          | none => nested = []
          | some id =>
            entered.length < maxDepth ∧ (nested.map (·.name)).Nodup ∧
              List.Forall₂
                (fun g q => propertyOf maxDepth types (types id).model.typeName
                  ((types id).typeName :: entered) g = .ok q)
                (types id).model.propertyFields nested := by
  rw [propertyOf_eq_ok_iff]
  refine exists_congr fun kind => exists_congr fun nested => and_congr_right fun settled =>
    and_congr_right fun _ => ?_
  obtain ⟨hasKind, -⟩ := settleKind_eq_ok_iff.mp settled
  rw [Field.opens?_of_kind hasKind]
  cases object : kind.isObject with
  | false => simp
  | true =>
      simp only [if_true, nestedPropertiesOf_eq_ok_iff, true_implies]
      cases refers : f.valueType.nested? with
      | none => simp
      | some id =>
          by_cases under : (types id).typeName ∈ entered <;> simp [under, Option.filter_some]

/-- **What is built is the unfolding**: the property of a field depends on the types
on the way to it only. -/
theorem eq_unfolded_of_propertyOf (built : propertyOf maxDepth types typeName entered f = .ok p) :
    p = f.unfolded types entered := by
  -- The fields of the type that is opened are met with that type under way, whatever the
  -- fields next to them open.
  induction entered using types.entered_induction generalizing typeName f p with
  | step entered ih =>
      obtain ⟨kind, nested, settled, rfl, -, inner⟩ := propertyOf_eq_ok_iff_opens.mp built
      obtain ⟨hasKind, -⟩ := settleKind_eq_ok_iff.mp settled
      rw [Field.unfolded_eq_describe hasKind]
      congr 1
      cases opens : f.opens? types entered with
      | none =>
          rw [opens] at inner
          rw [inner, Field.nested_unfolded_of_closed opens]
      | some id =>
          rw [opens] at inner
          obtain ⟨-, -, fields⟩ := inner
          rw [Field.nested_unfolded_of_opens opens]
          exact eq_map_of_forall₂ fields fun _ _ _ built =>
            ih id (Field.fresh_of_opens? opens) built

theorem name_of_propertyOf (built : propertyOf maxDepth types typeName entered f = .ok p) :
    p.name = f.propertyName := by
  obtain ⟨_, _, -, rfl, -⟩ := propertyOf_eq_ok_iff.mp built
  rfl

theorem names_of_propertyOf {fields : List (Field n)} {ps : List Property}
    (built : List.Forall₂ (fun f p => propertyOf maxDepth types typeName entered f = .ok p)
      fields ps) :
    ps.map (·.name) = fields.map Field.propertyName :=
  map_eq_of_forall₂ built fun _ _ _ one => name_of_propertyOf one

end Synthesis

/-! ### Vectors -/

namespace VectorDirective

/-- The vectorizer that a directive asks for. The module that needs a model is never built
without one: `ParametersFit`. -/
def made (d : VectorDirective) : Vectorizer :=
  match d.vectorizer with
  | .selfProvided => .selfProvided
  | .openAi => .openAi d.model d.dimensions d.baseUrl d.sources none
  | .cohere => .cohere d.model none d.sources
  | .transformers => .transformers none d.baseUrl d.sources
  | .ollama => .ollama (d.model.getD "") d.baseUrl d.sources
  | .clip => .clip d.baseUrl d.imageFields d.sources
  | .centroid => .centroid d.sources none

/-- The parameters suit the module: a self-provided vector takes none, and the
modules that need a model or references are given them. -/
def ParametersFit (d : VectorDirective) : Prop :=
  match d.vectorizer with
  | .selfProvided =>
    d.model = none ∧ d.dimensions = none ∧ d.baseUrl = none ∧ d.sources = [] ∧ d.imageFields = []
  | .ollama => d.model.isSome
  | .centroid => d.sources ≠ []
  | .openAi | .cohere | .transformers | .clip => True

end VectorDirective

namespace Synthesis

theorem firstParameter?_eq_none_iff {d : VectorDirective} :
    firstParameter? d = none ↔
      d.model = none ∧ d.dimensions = none ∧ d.baseUrl = none ∧ d.sources = [] ∧
        d.imageFields = [] := by
  unfold firstParameter?
  cases d.model <;> cases d.dimensions <;> cases d.baseUrl <;> cases d.sources <;>
    cases d.imageFields <;> simp

/-- **A vectorizer is the one asked for**, when the parameters suit its module. -/
theorem vectorizerOf_eq_ok_iff {name : String} {d : VectorDirective} {v : Vectorizer} :
    vectorizerOf name d = .ok v ↔ d.ParametersFit ∧ v = d.made := by
  unfold vectorizerOf VectorDirective.ParametersFit VectorDirective.made
  cases d.vectorizer with
  | selfProvided =>
      rw [← firstParameter?_eq_none_iff]
      cases firstParameter? d <;> simp [eq_comm]
  | ollama => cases d.model <;> simp [eq_comm]
  | centroid => cases d.sources <;> simp [eq_comm]
  | openAi => simp [eq_comm]
  | cohere => simp [eq_comm]
  | transformers => simp [eq_comm]
  | clip => simp [eq_comm]

/-- A vector without a hook is built when its parameters suit its module and what it
reads is in the collection. -/
theorem vectorOf_eq_ok_iff_made {config : SynthesisConfig} {lookup : HookLookup} {c : Collection}
    {d : VectorDirective} {v : NamedVector} (unhooked : d.hook = none) :
    vectorOf config lookup c f d = .ok v ↔
      d.ParametersFit ∧ checkSources (f.vectorName d) c d.made = .ok () ∧
        v = ⟨f.vectorName d, d.made, indexOf config d⟩ := by
  simp only [vectorOf_eq_ok_iff unhooked, vectorizerOf_eq_ok_iff]
  constructor
  · rintro ⟨_, ⟨suits, rfl⟩, known, rfl⟩
    exact ⟨suits, known, rfl⟩
  · rintro ⟨suits, known, rfl⟩
    exact ⟨_, ⟨suits, rfl⟩, known, rfl⟩

end Synthesis

/-! ### The members of a schema -/

namespace Model

variable {m : Model n}

/-- `m.Reaches types entered f`: unfolding `m` meets the field `f` with the types
`entered` under way, the innermost first. -/
inductive Reaches (types : Catalog n) (m : Model n) : List String → Field n → Prop where
  | top {f : Field n} : f ∈ m.propertyFields → m.Reaches types [] f
  | inner {entered : List String} {f g : Field n} {id : Fin n} :
      m.Reaches types entered f → f.opens? types entered = some id →
        g ∈ (types id).model.propertyFields → m.Reaches types ((types id).typeName :: entered) g

theorem HookFree.unhooked (hookFree : m.HookFree) {fd : Field n × VectorDirective}
    (mem : fd ∈ Synthesis.vectorDirectives m.fields) : fd.2.hook = none := by
  obtain ⟨f, memF, memFd⟩ := List.mem_filterMap.mp mem
  obtain ⟨d, directive, rfl⟩ := Option.map_eq_some_iff.mp memFd
  exact hookFree.2 f memF d directive

theorem map_name_referenceDirectives (m : Model n) :
    (Synthesis.referenceDirectives m.fields).map (fun fd => fd.1.referenceName fd.2) =
      Conformance.referenceNames m := by
  rw [Synthesis.referenceDirectives, List.map_filterMap, Conformance.referenceNames]
  refine List.filterMap_congr fun f _ => ?_
  cases f.vector <;> cases f.reference <;> rfl

theorem map_name_vectorDirectives (m : Model n) :
    (Synthesis.vectorDirectives m.fields).map (fun fd => fd.1.vectorName fd.2) =
      Conformance.vectorNames m := by
  rw [Synthesis.vectorDirectives, List.map_filterMap, Conformance.vectorNames]
  exact List.filterMap_congr fun f _ => Option.map_map ..

section Vectors

variable {config : SynthesisConfig} {lookup : HookLookup} {c : Collection}
  {vectors : List NamedVector} (hookFree : m.HookFree)
  (built : List.Forall₂ (fun fd v => Synthesis.vectorOf config lookup c fd.1 fd.2 = .ok v)
    (Synthesis.vectorDirectives m.fields) vectors)
include hookFree built

theorem HookFree.eq_map_of_vectorOf :
    vectors = (Synthesis.vectorDirectives m.fields).map fun fd =>
      ⟨fd.1.vectorName fd.2, fd.2.made, Synthesis.indexOf config fd.2⟩ :=
  eq_map_of_forall₂ built fun _ mem _ one =>
    ((Synthesis.vectorOf_eq_ok_iff_made (hookFree.unhooked mem)).mp one).2.2

theorem HookFree.names_of_vectorOf :
    vectors.map (·.name) = Conformance.vectorNames m := by
  rw [hookFree.eq_map_of_vectorOf built, List.map_map]
  exact m.map_name_vectorDirectives

end Vectors

end Model

namespace Synthesizer.Declares

open Synthesis

variable {s : Synthesizer} {m : Model n} {c : Collection} (declares : s.Declares types m c)
include declares

theorem properties_eq : c.properties = m.propertyFields.map (Field.unfolded types []) :=
  eq_map_of_forall₂ declares.properties fun _ _ _ built => eq_unfolded_of_propertyOf built

theorem vectors_eq (hookFree : m.HookFree) :
    c.vectors = (vectorDirectives m.fields).map fun fd =>
      ⟨fd.1.vectorName fd.2, fd.2.made, indexOf s.config fd.2⟩ :=
  hookFree.eq_map_of_vectorOf declares.vectors

/-- What holds of each directive whose parameters suit its module, and of the vector that it asks
for, holds of the vectors of the schema. -/
theorem forall₂_vectors (hookFree : m.HookFree)
    {R : Field n × VectorDirective → NamedVector → Prop}
    (each : ∀ fd, fd.2.ParametersFit →
      R fd ⟨fd.1.vectorName fd.2, fd.2.made, indexOf s.config fd.2⟩) :
    List.Forall₂ R (vectorDirectives m.fields) c.vectors := by
  rw [declares.vectors_eq hookFree, List.forall₂_map_right_iff, List.forall₂_same]
  intro fd mem
  obtain ⟨_, -, built⟩ := exists_of_mem_forall₂ declares.vectors mem
  exact each fd ((vectorOf_eq_ok_iff_made (hookFree.unhooked mem)).mp built).1

theorem propertyNames_eq :
    c.properties.map (·.name) = m.propertyFields.map Field.propertyName :=
  names_of_propertyOf declares.properties

theorem referenceNames_eq : c.references.map (·.name) = Conformance.referenceNames m := by
  rw [declares.references, List.map_map]
  exact m.map_name_referenceDirectives

theorem vectorNames_eq (hookFree : m.HookFree) :
    c.vectors.map (·.name) = Conformance.vectorNames m :=
  hookFree.names_of_vectorOf declares.vectors

/-- Every field that is met has a property, since the schema was built from all of them. -/
theorem exists_propertyOf (reached : m.Reaches types entered f) :
    ∃ typeName p, propertyOf s.config.maxDepth types typeName entered f = .ok p := by
  induction reached with
  | top mem =>
      obtain ⟨p, -, built⟩ := exists_of_mem_forall₂ declares.properties mem
      exact ⟨_, p, built⟩
  | inner _ opens mem ih =>
      obtain ⟨_, _, built⟩ := ih
      obtain ⟨_, _, -, -, -, inner⟩ := propertyOf_eq_ok_iff_opens.mp built
      rw [opens] at inner
      obtain ⟨q, -, built⟩ := exists_of_mem_forall₂ inner.2.2 mem
      exact ⟨_, q, built⟩

end Synthesizer.Declares

/-! ### The schema of a model -/

namespace Synthesizer

open Synthesis

variable {s : Synthesizer} {m : Model n} {c : Collection}

/-- **A schema is the unfolding of its model.** Its properties, references and vectors are
what the fields of the model become, one by one and in order. At every depth, a field has the
one kind that is given or follows from its type, an object field has the unfoldings of the
fields of its nested type unless that type is under way, and every other field has no nested
properties. -/
theorem synthesize_unfolds (hookFree : m.HookFree) (built : s.synthesize types m = .ok c) :
    c.properties = m.propertyFields.map (Field.unfolded types []) ∧
      (∀ entered f, m.Reaches types entered f →
        ∃ kind, f.kind? = some kind ∧ (f.unfolded types entered).kinds = [kind] ∧
          (kind.isObject → ∃ id, f.valueType.nested? = some id ∧
            (f.unfolded types entered).nested =
              if (types id).typeName ∈ entered then []
              else (types id).model.propertyFields.map
                (Field.unfolded types ((types id).typeName :: entered))) ∧
          (¬ kind.isObject → (f.unfolded types entered).nested = [])) ∧
      c.references = (referenceDirectives m.fields).map (fun (f, d) =>
        ⟨f.referenceName d, d.target, d.description⟩) ∧
      c.vectors = (vectorDirectives m.fields).map fun (f, d) =>
        ⟨f.vectorName d, d.made, indexOf s.config d⟩ := by
  have declares := synthesize_declares hookFree.1 built
  refine ⟨declares.properties_eq, fun entered f reached => ?_, declares.references,
    declares.vectors_eq hookFree⟩
  obtain ⟨typeName, p, built⟩ := declares.exists_propertyOf reached
  obtain ⟨kind, nested, settled, -, refers, -⟩ := propertyOf_eq_ok_iff_opens.mp built
  obtain ⟨hasKind, -⟩ := settleKind_eq_ok_iff.mp settled
  have opens : f.opens? types entered = _ := Field.opens?_of_kind hasKind
  refine ⟨kind, hasKind, ?_, fun object => ?_, fun plain => ?_⟩
  · rw [Field.unfolded_eq_describe hasKind]
    rfl
  · obtain ⟨id, refers⟩ := Option.isSome_iff_exists.mp (refers object)
    refine ⟨id, refers, ?_⟩
    rw [if_pos object, refers, Option.filter_some] at opens
    by_cases under : (types id).typeName ∈ entered
    · rw [if_pos under]
      exact Field.nested_unfolded_of_closed (by simpa [under] using opens)
    · rw [if_neg under]
      exact Field.nested_unfolded_of_opens (by simpa [under] using opens)
  · rw [if_neg plain] at opens
    exact Field.nested_unfolded_of_closed opens

end Synthesizer

/-! ### A drive of folders and files

Folders hold files and folders, and a file knows its folder: two types that contain each
other are unfolded from both ends, and two fields share one of them. -/

def driveTypes : Catalog 3
  | 0 =>
    { typeName := "Folder"
      model :=
        { typeName := "Folder"
          fields := [
            { ident := "title", valueType := .scalar .string },
            { ident := "folders", valueType := .list (.nested 0) },
            { ident := "files", valueType := .list (.nested 1) }] } }
  | 1 =>
    { typeName := "File"
      model :=
        { typeName := "File"
          fields := [
            { ident := "folder", valueType := .optional (.nested 0) },
            { ident := "versions", valueType := .list (.nested 2) }] } }
  | 2 =>
    { typeName := "Version"
      model :=
        { typeName := "Version"
          fields := [{ ident := "size", valueType := .scalar .int64 }] } }

def drive : Model 3 where
  typeName := "Drive"
  fields := [
    { ident := "label", valueType := .scalar .string,
      property := { description := some "on the front", tokenization := some .lowercase } },
    { ident := "root", valueType := .nested 0 },
    { ident := "trash", valueType := .nested 0 },
    { ident := "last_opened", valueType := .optional (.nested 1) },
    { ident := "owner", valueType := .scalar .uuid, reference := some { target := "Person" } },
    { ident := "label_vector", valueType := .list (.scalar .float32),
      vector := some { vectorizer := .openAi, sources := ["label"] } }]

/-- What versions unfold to wherever they are met. -/
def versionsProperty : Property :=
  { name := "versions", kinds := [.objectArray], nested := [.ofKind "size" .int] }

/-- What a folder unfolds to where no type is under way. -/
def folderProperties : List Property := [
  .ofKind "title" .text,
  .ofKind "folders" .objectArray,
  { name := "files", kinds := [.objectArray],
    nested := [.ofKind "folder" .object, versionsProperty] }]

def driveSchema : Collection where
  name := "Drive"
  properties := [
    { name := "label", kinds := [.text], description := some "on the front",
      tokenization := some .lowercase },
    { name := "root", kinds := [.object], nested := folderProperties },
    { name := "trash", kinds := [.object], nested := folderProperties },
    { name := "lastOpened", kinds := [.object],
      nested := [
        { name := "folder", kinds := [.object],
          nested := [
            .ofKind "title" .text,
            .ofKind "folders" .objectArray,
            .ofKind "files" .objectArray] },
        versionsProperty] }]
  references := [⟨"owner", "Person", none⟩]
  vectors := [
    ⟨"labelVector", .openAi none none none ["label"] none, IndexFamily.hnsw.plainIndex .cosine⟩]

theorem synthesize_drive :
    ({} : Synthesizer).synthesize driveTypes drive = .ok driveSchema := by
  decide +kernel

theorem synthesize_unfolds_drive :
    drive.HookFree ∧ ({} : Synthesizer).synthesize driveTypes drive = .ok driveSchema ∧
      driveSchema.properties = drive.propertyFields.map (Field.unfolded driveTypes []) :=
  ⟨by decide, synthesize_drive,
    (Synthesizer.synthesize_unfolds (by decide) synthesize_drive).1⟩

end CollectionSchema
