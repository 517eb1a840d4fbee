import CollectionSchema.Proofs.Conformance.Levels
import CollectionSchema.Proofs.Conformance.Misfit
import CollectionSchema.Proofs.Synthesis.Success

/-!
The errors of a check, path by path.

`Leads` follows a path of field names through a model and a schema at once: at each
name stand a field and the property that is equal to it up to letter case, and the
path goes on where both are the same kind of object, the property has nested
properties and the type of the field is not under way (`Enters`). A path mismatches
when it leads to a field and a property that do not go together (`Misfit`).

* `Model.errors_exact`: where names are distinct up to letter case, a check lists one
  error for each mismatching path, in the order of declaration, and no other.
* `joined_not_exact`: the errors do not always show the names of their path joined
  with dots. An empty prefix stands for the top level, so that empty names at the
  start of a path are lost.
-/

namespace CollectionSchema

namespace Conformance

variable {n : Nat} {types : Catalog n} {entered : List String} {f : Field n} {p : Property}
  {fields : List (Field n)} {ps : List Property}

/-! ### Paths -/

/-- `Leads types entered fields ps path f p`: from the fields and properties of a level,
the types `entered` being under way, the path of field names leads to the field `f` and
the property `p`. -/
inductive Leads (types : Catalog n) :
    List String → List (Field n) → List Property → List String → Field n → Property → Prop where
  | here {entered : List String} {fields : List (Field n)} {ps : List Property} {f : Field n}
      {p : Property} :
      f ∈ fields → p ∈ ps → Text.sameIgnoringCase p.name f.propertyName →
      Leads types entered fields ps [f.propertyName] f p
  | inside {entered : List String} {fields : List (Field n)} {ps : List Property} {f g : Field n}
      {p q : Property} {id : Fin n} {path : List String} :
      f ∈ fields → p ∈ ps → Text.sameIgnoringCase p.name f.propertyName →
      Enters types entered f p id →
      Leads types ((types id).typeName :: entered) (types id).model.propertyFields p.nested
        path g q →
      Leads types entered fields ps (f.propertyName :: path) g q

/-- The path leads to a field that does not go with its property, and `e` is what is
said of it, under the text of the path. -/
def MismatchAt (text : List String → String) (types : Catalog n) (entered : List String)
    (fields : List (Field n)) (ps : List Property) (path : List String) (e : Mismatch) : Prop :=
  ∃ f p, Leads types entered fields ps path f p ∧ Misfit types (text path) f p e

/-- Where two paths part, the field of the first is declared before that of the
second. -/
inductive DeclaredBefore (types : Catalog n) :
    List (Field n) → List String → List String → Prop where
  | here {fields : List (Field n)} {f g : Field n} {path path' : List String} :
      [f, g].Sublist fields → f.propertyName ≠ g.propertyName →
      DeclaredBefore types fields (f.propertyName :: path) (g.propertyName :: path')
  | inside {fields : List (Field n)} {f : Field n} {id : Fin n} {path path' : List String} :
      f ∈ fields → f.valueType.nested? = some id →
      DeclaredBefore types (types id).model.propertyFields path path' →
      DeclaredBefore types fields (f.propertyName :: path) (f.propertyName :: path')

/-- The errors are those of the mismatching paths, one for each path and no other, in
the order in which the paths are declared. -/
def ListsMismatches (text : List String → String) (types : Catalog n) (entered : List String)
    (fields : List (Field n)) (ps : List Property) (errors : List Mismatch) : Prop :=
  ∃ paths : List (List String),
    paths.Nodup ∧ paths.Pairwise (DeclaredBefore types fields) ∧
      (∀ path, path ∈ paths ↔ ∃ e, MismatchAt text types entered fields ps path e) ∧
      List.Forall₂ (MismatchAt text types entered fields ps) paths errors

/-- Where no path mismatches, no errors are listed. -/
theorem listsMismatches_nil {text : List String → String}
    (fits : ∀ path e, ¬ MismatchAt text types entered fields ps path e) :
    ListsMismatches text types entered fields ps [] := by
  refine ⟨[], List.nodup_nil, .nil, ?_, .nil⟩
  intro path
  simp only [List.not_mem_nil, false_iff, not_exists]
  exact fits path

/-- No errors are listed just where no path mismatches. -/
theorem ListsMismatches.eq_nil_iff {text : List String → String} {errors : List Mismatch}
    (lists : ListsMismatches text types entered fields ps errors) :
    errors = [] ↔ ∀ path e, ¬ MismatchAt text types entered fields ps path e := by
  obtain ⟨paths, -, -, complete, related⟩ := lists
  constructor
  · rintro rfl path e mismatch
    obtain rfl := List.forall₂_nil_right_iff.mp related
    exact List.not_mem_nil ((complete path).mpr ⟨e, mismatch⟩)
  · intro fits
    have pathless : paths = [] := by
      refine List.eq_nil_iff_forall_not_mem.mpr fun path mem => ?_
      obtain ⟨e, mismatch⟩ := (complete path).mp mem
      exact fits path e mismatch
    subst pathless
    exact List.forall₂_nil_left_iff.mp related

/-- Every error that is listed shows the text of a path from the level. -/
theorem ListsMismatches.exists_path {text : List String → String} {errors : List Mismatch}
    (lists : ListsMismatches text types entered fields ps errors) {e : Mismatch}
    (mem : e ∈ errors) :
    ∃ path f p, Leads types entered fields ps path f p ∧ e.path = text path := by
  obtain ⟨paths, -, -, -, related⟩ := lists
  obtain ⟨path, -, f, p, leads, misfit⟩ := exists_of_mem_forall₂ related.flip mem
  exact ⟨path, f, p, leads, misfit.path_eq⟩

theorem DeclaredBefore.ne {path path' : List String}
    (before : DeclaredBefore types fields path path') : path ≠ path' := by
  induction before with
  | here _ differ =>
      intro same
      exact differ (List.cons.inj same).1
  | inside _ _ _ ih =>
      intro same
      exact ih (List.cons.inj same).2

/-! ### One field of a level -/

theorem Leads.mono {fields' : List (Field n)} (sub : fields.Subset fields') {path : List String}
    (leads : Leads types entered fields ps path f p) :
    Leads types entered fields' ps path f p := by
  cases leads with
  | here mem memP same => exact .here (sub mem) memP same
  | inside mem memP same enters rest => exact .inside (sub mem) memP same enters rest

/-- A path through a level goes through one of its fields. -/
theorem leads_iff_singleton {path : List String} :
    Leads types entered fields ps path f p ↔
      ∃ g ∈ fields, Leads types entered [g] ps path f p := by
  constructor
  · intro leads
    cases leads with
    | here mem memP same => exact ⟨_, mem, .here (List.mem_singleton_self _) memP same⟩
    | inside mem memP same enters rest =>
        exact ⟨_, mem, .inside (List.mem_singleton_self _) memP same enters rest⟩
  · rintro ⟨g, mem, leads⟩
    exact leads.mono (List.singleton_sublist.mpr mem).subset

theorem MismatchAt.mono {text : List String → String} {fields' : List (Field n)}
    (sub : fields.Subset fields') {path : List String} {e : Mismatch}
    (mismatch : MismatchAt text types entered fields ps path e) :
    MismatchAt text types entered fields' ps path e := by
  obtain ⟨f, p, leads, misfit⟩ := mismatch
  exact ⟨f, p, leads.mono sub, misfit⟩

theorem DeclaredBefore.mono {fields' : List (Field n)} (sub : fields.Sublist fields')
    {path path' : List String} (before : DeclaredBefore types fields path path') :
    DeclaredBefore types fields' path path' := by
  cases before with
  | here pair differ => exact .here (pair.trans sub) differ
  | inside mem refers rest => exact .inside (sub.subset mem) refers rest

theorem head_of_leads {path : List String} {g : Field n}
    (leads : Leads types entered [g] ps path f p) : ∃ rest, path = g.propertyName :: rest := by
  cases leads with
  | here mem _ _ => exact ⟨[], by rw [List.mem_singleton.mp mem]⟩
  | inside mem _ _ _ _ => exact ⟨_, by rw [List.mem_singleton.mp mem]⟩

/-- The errors of a level are those of its fields, one field after the other. -/
theorem listsMismatches_flatMap {text : List String → String}
    (distinct : (fields.map Field.propertyName).Nodup) {errorsOf : Field n → List Mismatch}
    (each : ∀ g ∈ fields, ListsMismatches text types entered [g] ps (errorsOf g)) :
    ListsMismatches text types entered fields ps (fields.flatMap errorsOf) := by
  choose! paths nodup ordered complete related using each
  have heads : ∀ g ∈ fields, ∀ path ∈ paths g, ∃ rest, path = g.propertyName :: rest := by
    intro g mem path among
    obtain ⟨e, f, p, leads, -⟩ := (complete g mem path).mp among
    exact head_of_leads leads
  have before : (fields.flatMap paths).Pairwise (DeclaredBefore types fields) := by
    rw [List.pairwise_flatMap]
    constructor
    · intro g mem
      exact (ordered g mem).imp fun before =>
        before.mono (List.singleton_sublist.mpr mem)
    · rw [List.pairwise_iff_forall_sublist]
      intro f g pair path memF path' memG
      obtain ⟨rest, rfl⟩ := heads f (pair.subset (by simp)) path memF
      obtain ⟨rest', rfl⟩ := heads g (pair.subset (by simp)) path' memG
      have differ : [f.propertyName, g.propertyName].Nodup :=
        distinct.sublist (pair.map Field.propertyName)
      exact .here pair (by simpa using differ)
  refine ⟨fields.flatMap paths, before.imp DeclaredBefore.ne, before, ?_, ?_⟩
  · intro path
    rw [List.mem_flatMap]
    constructor
    · rintro ⟨g, mem, among⟩
      obtain ⟨e, mismatch⟩ := (complete g mem path).mp among
      exact ⟨e, mismatch.mono (List.singleton_sublist.mpr mem).subset⟩
    · rintro ⟨e, f, p, leads, misfit⟩
      obtain ⟨g, mem, leads⟩ := leads_iff_singleton.mp leads
      exact ⟨g, mem, (complete g mem path).mpr ⟨e, f, p, leads, misfit⟩⟩
  · have fieldwise : List.Forall₂ (fun g g' => g = g' ∧ g ∈ fields) fields fields :=
      List.forall₂_same.mpr fun g mem => ⟨rfl, mem⟩
    refine List.rel_flatMap fieldwise ?_
    rintro g _ ⟨rfl, mem⟩
    exact (related g mem).imp fun _ _ mismatch =>
      mismatch.mono (List.singleton_sublist.mpr mem).subset

/-! ### Every level -/

/-- The text of a path below a parent. -/
def textBelow (parent : String) (path : List String) : String :=
  path.foldl pathTo parent

section Field

variable {parent : String} {errors : List Mismatch}

/-- A field that is equal to no property leads nowhere. -/
theorem listsMismatches_of_unpaired (unpaired : alike (·.name) ps f.propertyName = none) :
    ListsMismatches (textBelow parent) types entered [f] ps [] := by
  refine listsMismatches_nil ?_
  rintro path e ⟨g, p, leads, -⟩
  have alone := alike_eq_none_iff.mp unpaired
  cases leads with
  | here mem memP same | inside mem memP same =>
      rw [List.mem_singleton.mp mem] at same
      exact alone _ memP same

variable (distinct : DistinctIgnoringCase (ps.map (·.name)))
  (paired : alike (·.name) ps f.propertyName = some p)
include distinct paired

/-- The paths through a field end at it or go on through the type that it enters. -/
theorem mismatchAt_iff {path : List String} {e : Mismatch} :
    MismatchAt (textBelow parent) types entered [f] ps path e ↔
      (path = [f.propertyName] ∧ Misfit types (pathTo parent f.propertyName) f p e) ∨
        ∃ id rest, path = f.propertyName :: rest ∧ Enters types entered f p id ∧
          MismatchAt (textBelow (pathTo parent f.propertyName)) types
            ((types id).typeName :: entered) (types id).model.propertyFields p.nested rest e := by
  have partner : ∀ q ∈ ps, Text.sameIgnoringCase q.name f.propertyName → q = p := by
    intro q mem same
    exact Option.some.inj (((alike_eq_some_iff distinct).mpr ⟨mem, same⟩).symm.trans paired)
  obtain ⟨memP, same⟩ := (alike_eq_some_iff distinct).mp paired
  constructor
  · rintro ⟨g, q, leads, misfit⟩
    cases leads with
    | here mem memQ sameQ =>
        obtain rfl := List.mem_singleton.mp mem
        obtain rfl := partner q memQ sameQ
        exact .inl ⟨rfl, misfit⟩
    | inside mem memQ sameQ enters rest =>
        obtain rfl := List.mem_singleton.mp mem
        obtain rfl := partner _ memQ sameQ
        exact .inr ⟨_, _, rfl, enters, _, _, rest, misfit⟩
  · rintro (⟨rfl, misfit⟩ | ⟨id, rest, rfl, enters, g, q, leads, misfit⟩)
    · exact ⟨f, p, .here (List.mem_singleton_self f) memP same, misfit⟩
    · exact ⟨g, q, .inside (List.mem_singleton_self f) memP same enters leads, misfit⟩

theorem listsMismatches_of_misfit {e : Mismatch}
    (misfit : Misfit types (pathTo parent f.propertyName) f p e) :
    ListsMismatches (textBelow parent) types entered [f] ps [e] := by
  have here : MismatchAt (textBelow parent) types entered [f] ps [f.propertyName] e :=
    (mismatchAt_iff distinct paired).mpr (.inl ⟨rfl, misfit⟩)
  refine ⟨[[f.propertyName]], List.nodup_singleton _, List.pairwise_singleton _ _, ?_,
    .cons here .nil⟩
  intro path
  rw [List.mem_singleton]
  constructor
  · rintro rfl
    exact ⟨e, here⟩
  · rintro ⟨e', mismatch⟩
    rcases (mismatchAt_iff distinct paired).mp mismatch with ⟨rfl, -⟩ | ⟨id, _, -, enters, -⟩
    · rfl
    · exact absurd enters (misfit.not_enters id)

theorem listsMismatches_of_enters {id : Fin n} (enters : Enters types entered f p id)
    (inner : ListsMismatches (textBelow (pathTo parent f.propertyName)) types
      ((types id).typeName :: entered) (types id).model.propertyFields p.nested errors) :
    ListsMismatches (textBelow parent) types entered [f] ps errors := by
  obtain ⟨paths, nodup, ordered, complete, related⟩ := inner
  have before : (paths.map (f.propertyName :: ·)).Pairwise (DeclaredBefore types [f]) := by
    rw [List.pairwise_map]
    exact ordered.imp (.inside (List.mem_singleton_self f) enters.refers)
  refine ⟨paths.map (f.propertyName :: ·), before.imp DeclaredBefore.ne, before, ?_, ?_⟩
  · intro path
    rw [List.mem_map]
    constructor
    · rintro ⟨rest, mem, rfl⟩
      obtain ⟨e, mismatch⟩ := (complete rest).mp mem
      exact ⟨e, (mismatchAt_iff distinct paired).mpr (.inr ⟨id, rest, rfl, enters, mismatch⟩)⟩
    · rintro ⟨e, mismatch⟩
      rcases (mismatchAt_iff distinct paired).mp mismatch with
        ⟨-, misfit⟩ | ⟨other, rest, rfl, enters', mismatch⟩
      · exact absurd enters (misfit.not_enters id)
      · obtain rfl := Option.some.inj (enters'.refers.symm.trans enters.refers)
        exact ⟨rest, (complete rest).mpr ⟨e, mismatch⟩, rfl⟩
  · rw [List.forall₂_map_left_iff]
    refine related.imp fun rest e mismatch => ?_
    exact (mismatchAt_iff distinct paired).mpr (.inr ⟨id, rest, rfl, enters, mismatch⟩)

theorem listsMismatches_of_fits (fits : ∀ path e, ¬ Misfit types path f p e)
    (closed : ∀ id, ¬ Enters types entered f p id) :
    ListsMismatches (textBelow parent) types entered [f] ps [] := by
  refine listsMismatches_nil ?_
  intro path e mismatch
  rcases (mismatchAt_iff distinct paired).mp mismatch with ⟨-, misfit⟩ | ⟨id, _, -, enters, -⟩
  · exact fits _ e misfit
  · exact closed id enters

end Field

/-- **A level lists its mismatches**: the errors of a level are those of the mismatching
paths from it, in the order of declaration. -/
theorem listsMismatches_checkProperties {parent : String}
    (distinctFields : DistinctFields types fields) (distinct : DistinctProperties ps) :
    ListsMismatches (textBelow parent) types entered fields ps
      (checkProperties types entered parent fields ps).errors := by
  induction entered using types.entered_induction generalizing parent fields ps with
  | step entered ih =>
      rw [errors_checkProperties distinctFields.names distinct.names]
      refine listsMismatches_flatMap distinctFields.names.nodup fun f mem => ?_
      cases paired : alike (·.name) ps f.propertyName with
      | none =>
          have silent {path : String} : (checkField types entered path f none).errors = [] := by
            rw [checkField]
            rfl
          rw [silent]
          exact listsMismatches_of_unpaired paired
      | some p =>
          have memP := ((alike_eq_some_iff distinct.names).mp paired).1
          rcases checkField_cases types entered (pathTo parent f.propertyName) f p with
            ⟨e, misfit, found⟩ | ⟨id, enters, found⟩ | ⟨fits, closed, found⟩
          · rw [found]
            exact listsMismatches_of_misfit distinct.names paired misfit
          · rw [found]
            exact listsMismatches_of_enters distinct.names paired enters
              (ih id enters.fresh (distinctFields.inside mem enters.refers) (distinct.nested memP))
          · rw [found]
            exact listsMismatches_of_fits distinct.names paired fits closed

/-! ### The text of a path -/

/-- The names of a path, joined with dots once the empty names at its start are
dropped. -/
def pathText (path : List String) : String :=
  ".".intercalate (path.dropWhile String.isEmpty)

theorem pathText_cons {name : String} (nonempty : name ≠ "") (rest : List String) :
    pathText (name :: rest) = ".".intercalate (name :: rest) := by
  simp [pathText, nonempty]

/-- Below a parent that is not empty, every name is joined. -/
theorem textBelow_of_ne {parent : String} (nonempty : parent ≠ "") (path : List String) :
    textBelow parent path = ".".intercalate (parent :: path) := by
  induction path generalizing parent with
  | nil => simp [textBelow]
  | cons name rest ih =>
      have further : pathTo parent name = parent ++ "." ++ name := by
        simp [pathTo, nonempty]
      have stays : parent ++ "." ++ name ≠ "" := by
        simp [nonempty]
      calc textBelow parent (name :: rest)
          = textBelow (parent ++ "." ++ name) rest := by rw [← further]; rfl
        _ = ".".intercalate ((parent ++ "." ++ name) :: rest) := ih stays
        _ = ".".intercalate (parent :: name :: rest) := by simp

theorem textBelow_empty (path : List String) : textBelow "" path = pathText path := by
  induction path with
  | nil => rfl
  | cons name rest ih =>
      have first : textBelow "" (name :: rest) = textBelow name rest := rfl
      by_cases nonempty : name = ""
      · subst nonempty
        exact ih
      · rw [first, textBelow_of_ne nonempty, pathText_cons nonempty]

/-- Only the texts of the paths that lead somewhere matter. -/
theorem ListsMismatches.congr {text text' : List String → String} {errors : List Mismatch}
    (agree : ∀ path f p, Leads types entered fields ps path f p → text' path = text path)
    (lists : ListsMismatches text types entered fields ps errors) :
    ListsMismatches text' types entered fields ps errors := by
  have same : MismatchAt text' types entered fields ps =
      MismatchAt text types entered fields ps := by
    funext path e
    refine propext (exists_congr fun f => exists_congr fun p => and_congr_right fun leads => ?_)
    rw [agree path f p leads]
  rw [ListsMismatches, same]
  exact lists

end Conformance

namespace Model

open Conformance

variable {n : Nat} {types : Catalog n} {m : Model n} {c : Collection}

/-- The errors of a check are those of the mismatching paths, each shown under the text
of its path. -/
def ErrorsExact (text : List String → String) (types : Catalog n) (m : Model n)
    (c : Collection) : Prop :=
  ListsMismatches text types [] m.propertyFields c.properties (m.report types c).errors

/-- **Errors are the mismatching paths.** Where names are distinct up to letter case at
every level, a check lists one error for each mismatching path and no other, in the order
of declaration, under the names of the path joined with dots once the empty names at its
start are dropped. When no name of the top level is empty these are all the names. The
model fits exactly when no path mismatches. -/
theorem errors_exact (distinctFields : DistinctFields types m.propertyFields)
    (distinct : DistinctProperties c.properties) :
    m.ErrorsExact pathText types c ∧
      ((∀ f ∈ m.propertyFields, f.propertyName ≠ "") →
        m.ErrorsExact ".".intercalate types c) ∧
      ((m.report types c).isValid ↔
        ∀ path e, ¬ MismatchAt pathText types [] m.propertyFields c.properties path e) := by
  have errors : (m.report types c).errors =
      (checkProperties types [] "" m.propertyFields c.properties).errors := by
    simp [report, checkVectors, checkReferences]
  have exact : m.ErrorsExact pathText types c := by
    rw [ErrorsExact, errors]
    refine ListsMismatches.congr ?_ (listsMismatches_checkProperties distinctFields distinct)
    intro path _ _ _
    exact (textBelow_empty path).symm
  refine ⟨exact, ?_, ?_⟩
  · intro named
    refine ListsMismatches.congr ?_ exact
    intro path f p leads
    cases leads with
    | here mem => exact (pathText_cons (named _ mem) []).symm
    | inside mem _ _ _ _ => exact (pathText_cons (named _ mem) _).symm
  · rw [Report.isValid, List.isEmpty_iff]
    exact exact.eq_nil_iff

end Model

/-! ### A visit to a place

A place may lie within another, and the names of its properties differ from those of the
schema in letter case. -/

def placeTypes : Catalog 1 := fun _ =>
  { typeName := "Place"
    model :=
      { typeName := "Place"
        fields := [
          { ident := "city", valueType := .scalar .string },
          { ident := "tags", valueType := .list (.scalar .string) },
          { ident := "within", valueType := .optional (.nested ⟨0, Nat.one_pos⟩) },
          { ident := "area", valueType := .scalar .uint128 }] } }

/-- A visit to the place that is the field of the given identifier. -/
def visit (ident : String) : Model 1 where
  typeName := "Visit"
  fields := [{ ident, valueType := .nested ⟨0, Nat.one_pos⟩ }]

def withinPlace : Property where
  name := "Within"
  kinds := [.object]
  nested := [.ofKind "city" .int]

/-- The schema of a visit to the place that is the property of the given name. -/
def visitSchema (name : String) : Collection where
  name := "Visit"
  properties := [
    { name, kinds := [.object],
      nested := [.ofKind "AREA" .number, .ofKind "TAGS" .text, .ofKind "City" .int, withinPlace] }]

theorem distinctFields_visit (ident : String) :
    DistinctFields placeTypes (visit ident).propertyFields where
  names := List.nodup_singleton _
  nested := by
    have levels : ∀ id, DistinctIgnoringCase
        ((placeTypes id).model.propertyFields.map Field.propertyName) := by decide
    intro id _
    exact levels id

theorem distinctProperties_visitSchema (name : String) :
    DistinctProperties (visitSchema name).properties := by
  have city : DistinctProperties withinPlace.nested :=
    .intro (by decide) (List.forall_mem_singleton.mpr .nil)
  have place : DistinctProperties [.ofKind "AREA" .number, .ofKind "TAGS" .text,
      .ofKind "City" .int, withinPlace] := by
    refine .intro (by decide) fun p mem => ?_
    simp only [List.mem_cons, List.not_mem_nil, or_false] at mem
    rcases mem with rfl | rfl | rfl | rfl
    · exact .nil
    · exact .nil
    · exact .nil
    · exact city
  exact .intro (List.nodup_singleton _) (List.forall_mem_singleton.mpr place)

theorem errors_exact_visit :
    DistinctFields placeTypes (visit "place").propertyFields ∧
      DistinctProperties (visitSchema "Place").properties ∧
      (visit "place").ErrorsExact ".".intercalate placeTypes (visitSchema "Place") ∧
      ((visit "place").report placeTypes (visitSchema "Place")).errors.map
          (fun e => (e.path, e.kind)) =
        [("place.city", .typeMismatch), ("place.tags", .arrayMismatch),
          ("place.area", .noKind)] := by
  have exact := Model.errors_exact (distinctFields_visit "place")
    (distinctProperties_visitSchema "Place")
  refine ⟨distinctFields_visit "place", distinctProperties_visitSchema "Place", exact.2.1 ?_, ?_⟩
  · decide
  · decide +kernel

/-- Joining all the names of a path with dots is not always right: the city of a place
whose own name is empty is shown as `city`. -/
theorem joined_not_exact :
    ¬ ∀ (n : Nat) (types : Catalog n) (m : Model n) (c : Collection),
      DistinctFields types m.propertyFields → DistinctProperties c.properties →
        m.ErrorsExact ".".intercalate types c := by
  intro always
  have exact := always 1 placeTypes (visit "__") (visitSchema "") (distinctFields_visit "__")
    (distinctProperties_visitSchema "")
  have shown : "city" ∈
      ((visit "__").report placeTypes (visitSchema "")).errors.map Mismatch.path := by
    decide +kernel
  obtain ⟨e, mem, city⟩ := List.mem_map.mp shown
  obtain ⟨path, f, p, leads, text⟩ := exact.exists_path mem
  obtain ⟨rest, rfl⟩ := Conformance.head_of_leads leads
  have unnamed : Text.camelCase "__" = "" := by decide
  have dotted : "city" = ".".intercalate ("" :: rest) := city.symm.trans (unnamed ▸ text)
  cases rest with
  | nil => simp at dotted
  | cons name rest =>
      -- A text that starts with a dot.
      have letters := congrArg String.toList dotted
      simp at letters

end CollectionSchema
