import CollectionSchema.Proofs.Conformance.Matching
import CollectionSchema.Proofs.Conformance.Paths
import Mathlib.Data.List.Perm.Basic

/-!
The levels that a check compares, and the warnings of each.

A check compares the property fields of a model with the properties of a collection, and goes on
inside every field that enters a nested type. `Comparison.all` lists what is compared on the way,
a level before the levels inside it. Each level warns of its own left-over members only, so that
the warnings of a check are those of its levels.

* `check_warnings_perm`: the warnings of a check, level by level.
* `exists_misfit_of_mem_errors`: an error belongs to a field of some level and its partner.
* `Model.warnings_of_pairings`: fields and properties are paired as far as they can be, and
  whatever is left over on either side, and nothing else, is warned of once.
-/

namespace CollectionSchema

namespace Conformance

variable {n : Nat} {types : Catalog n} {entered : List String} {f : Field n} {p : Property}

/-! ### Entering a nested type -/

/-- The nested type that a check enters at a field and its property. -/
def enters? (types : Catalog n) (entered : List String) (f : Field n) (p : Property) :
    Option (Fin n) :=
  f.valueType.nested?.filter fun id =>
    decide (f.kind? = p.kind? ∧ f.kind?.any DataKind.isObject ∧ p.nested ≠ [] ∧
      (types id).typeName ∉ entered)

theorem enters?_eq_some_iff {id : Fin n} :
    enters? types entered f p = some id ↔ Enters types entered f p id := by
  rw [enters?, Option.filter_eq_some_iff, decide_eq_true_eq]
  constructor
  · rintro ⟨refers, kinds, object, nested, fresh⟩
    obtain ⟨kind, hasKind, isObject⟩ := (Option.any_eq_true _ _).mp object
    exact ⟨⟨kind, hasKind, kinds ▸ hasKind, isObject⟩, nested, refers, fresh⟩
  · intro enters
    obtain ⟨kind, hasKind, primary, object⟩ := enters.objects
    refine ⟨enters.refers, hasKind.trans primary.symm, ?_, enters.nested, enters.fresh⟩
    exact (Option.any_eq_true _ _).mpr ⟨kind, hasKind, object⟩

theorem enters?_eq_none_iff :
    enters? types entered f p = none ↔ ∀ id, ¬ Enters types entered f p id := by
  rw [Option.eq_none_iff_forall_ne_some]
  exact forall_congr' fun id => not_congr enters?_eq_some_iff

end Conformance

open Conformance

/-! ### Levels -/

/-- What a check compares at one level. -/
structure Comparison (n : Nat) where
  /-- The types under way, the innermost first. -/
  entered : List String
  /-- The names of the fields that lead to the level. -/
  path : List String
  fields : List (Field n)
  properties : List Property

namespace Comparison

variable {n : Nat}

/-- How the fields of a level are paired with its properties. -/
def pairing (l : Comparison n) : Pairing Property :=
  Pairing.ofNames (·.name) (l.fields.map Field.propertyName) l.properties

/-- The fields of a level, each with its partner. -/
def pairs (l : Comparison n) : List (Field n × Option Property) :=
  l.fields.zip l.pairing.partners

/-- The fields without a partner. -/
def extra (l : Comparison n) : List (Field n) :=
  (l.pairs.filter (·.2.isNone)).map (·.1)

/-- The properties that are nobody's partner. -/
def missing (l : Comparison n) : List Property :=
  l.pairing.unclaimed

/-- The text of the path of a name at a level. -/
def textOf (l : Comparison n) (name : String) : String :=
  textBelow "" (l.path ++ [name])

/-- What a level is warned of on its own: one warning for each member that is left over. -/
def warnings (l : Comparison n) : List Warning :=
  l.extra.map (fun f => extraField (l.textOf f.propertyName) f.ident) ++
    l.missing.map fun p => missingField (l.textOf p.name) p.name

/-- The level inside a field, when the check goes on inside it. -/
def within (types : Catalog n) (l : Comparison n) (pair : Field n × Option Property) :
    Option (Comparison n) :=
  pair.2.bind fun p => (enters? types l.entered pair.1 p).map fun id =>
    { entered := (types id).typeName :: l.entered
      path := l.path ++ [pair.1.propertyName]
      fields := (types id).model.propertyFields
      properties := p.nested }

section Within

variable {types : Catalog n} {l inner : Comparison n} {f : Field n}

theorem within_eq_some_iff {p : Property} :
    l.within types (f, some p) = some inner ↔
      ∃ id, Enters types l.entered f p id ∧ inner =
        { entered := (types id).typeName :: l.entered
          path := l.path ++ [f.propertyName]
          fields := (types id).model.propertyFields
          properties := p.nested } := by
  simp only [within, Option.bind_some, Option.map_eq_some_iff, enters?_eq_some_iff]
  exact exists_congr fun id => and_congr_right fun _ => eq_comm

theorem within_eq_none {p : Property} (closed : ∀ id, ¬ Enters types l.entered f p id) :
    l.within types (f, some p) = none := by
  rw [within, Option.bind_some, enters?_eq_none_iff.mpr closed, Option.map_none]

/-- Inside a field one type more is under way. -/
theorem exists_entered_of_within {pair : Field n × Option Property}
    (goesOn : l.within types pair = some inner) :
    ∃ id, (types id).typeName ∉ l.entered ∧ inner.entered = (types id).typeName :: l.entered := by
  obtain ⟨f, _ | p⟩ := pair
  · cases goesOn
  · obtain ⟨id, enters, rfl⟩ := within_eq_some_iff.mp goesOn
    exact ⟨id, enters.fresh, rfl⟩

theorem unentered_lt_of_within {pair : Field n × Option Property}
    (goesOn : l.within types pair = some inner) :
    types.unentered inner.entered < types.unentered l.entered := by
  obtain ⟨id, fresh, entered⟩ := exists_entered_of_within goesOn
  exact entered ▸ types.unentered_cons_lt fresh

end Within

/-- The level and all levels inside it. -/
def all (types : Catalog n) (l : Comparison n) : List (Comparison n) :=
  l :: l.pairs.flatMap fun pair =>
    match _goesOn : l.within types pair with
    | none => []
    | some inner => inner.all types
termination_by types.unentered l.entered
decreasing_by exact unentered_lt_of_within _goesOn

/-- The levels inside a field. -/
def allWithin (types : Catalog n) (l : Comparison n) (pair : Field n × Option Property) :
    List (Comparison n) :=
  (l.within types pair).elim [] (all types)

theorem all_eq (types : Catalog n) (l : Comparison n) :
    l.all types = l :: l.pairs.flatMap (l.allWithin types) := by
  rw [all]
  congr 1
  refine List.flatMap_congr fun pair _ => ?_
  unfold allWithin
  split <;> simp_all

/-! ### The check of a level -/

/-- The report of the check of a level, the levels inside it included. -/
def check (types : Catalog n) (l : Comparison n) : Report :=
  checkProperties types l.entered (textBelow "" l.path) l.fields l.properties

section Check

variable (types : Catalog n) (l : Comparison n)

theorem pathTo_textBelow (name : String) : pathTo (textBelow "" l.path) name = l.textOf name := by
  rw [textOf, textBelow, textBelow, List.foldl_append]
  rfl

theorem check_eq :
    l.check types =
      Report.join (l.pairs.map fun pair =>
          checkField types l.entered (l.textOf pair.1.propertyName) pair.1 pair.2) ++
        { warnings := l.missing.map fun p => missingField (l.textOf p.name) p.name } := by
  rw [check, checkProperties]
  simp only [pathTo_textBelow]
  rfl

/-- The check of a field goes on inside it, or it finds at most one thing: that the field is
extra, or what is wrong with it. -/
theorem checkField_cases (pair : Field n × Option Property) :
    (∃ inner, l.within types pair = some inner ∧
        checkField types l.entered (l.textOf pair.1.propertyName) pair.1 pair.2 =
          inner.check types) ∨
      l.within types pair = none ∧
        (checkField types l.entered (l.textOf pair.1.propertyName) pair.1 pair.2).warnings =
          (if pair.2.isNone then [extraField (l.textOf pair.1.propertyName) pair.1.ident]
            else []) ∧
        ∀ e ∈ (checkField types l.entered (l.textOf pair.1.propertyName) pair.1 pair.2).errors,
          ∃ p, pair.2 = some p ∧ Misfit types (l.textOf pair.1.propertyName) pair.1 p e := by
  obtain ⟨f, _ | p⟩ := pair
  · refine .inr ⟨rfl, ?_⟩
    rw [checkField]
    exact ⟨rfl, fun e mem => absurd mem List.not_mem_nil⟩
  · rcases Conformance.checkField_cases types l.entered (l.textOf f.propertyName) f p with
      ⟨e, misfit, found⟩ | ⟨id, enters, found⟩ | ⟨-, closed, found⟩
    · refine .inr ⟨within_eq_none misfit.not_enters, ?_⟩
      rw [found]
      exact ⟨rfl, fun e' mem => ⟨p, rfl, List.eq_of_mem_singleton mem ▸ misfit⟩⟩
    · exact .inl ⟨_, within_eq_some_iff.mpr ⟨id, enters, rfl⟩, found⟩
    · refine .inr ⟨within_eq_none closed, ?_⟩
      rw [found]
      exact ⟨rfl, fun e mem => absurd mem List.not_mem_nil⟩

/-- The warnings of a field: that it is extra, or those of the levels inside it. -/
theorem warnings_checkField_perm (pair : Field n × Option Property)
    (inside : ∀ inner, l.within types pair = some inner →
      (inner.check types).warnings.Perm ((inner.all types).flatMap warnings)) :
    (checkField types l.entered (l.textOf pair.1.propertyName) pair.1 pair.2).warnings.Perm
      ((if pair.2.isNone then [extraField (l.textOf pair.1.propertyName) pair.1.ident] else []) ++
        (l.allWithin types pair).flatMap warnings) := by
  rcases l.checkField_cases types pair with ⟨inner, goesOn, found⟩ | ⟨stops, found, -⟩
  · have partner : pair.2.isNone = false := by
      obtain ⟨f, _ | p⟩ := pair
      · cases goesOn
      · rfl
    rw [found, partner, allWithin, goesOn]
    exact inside inner goesOn
  · rw [found, allWithin, stops]
    simp

theorem map_extraField_eq_flatMap :
    l.extra.map (fun f => extraField (l.textOf f.propertyName) f.ident) =
      l.pairs.flatMap fun pair =>
        if pair.2.isNone then [extraField (l.textOf pair.1.propertyName) pair.1.ident] else [] := by
  rw [extra, List.map_map]
  induction l.pairs with
  | nil => rfl
  | cons pair rest ih =>
      rw [List.flatMap_cons, ← ih]
      cases alone : pair.2.isNone <;> simp [alone]

/-- **A check warns level by level**: its warnings are those of the level and of the levels
inside it. -/
theorem check_warnings_perm : (l.check types).warnings.Perm ((l.all types).flatMap warnings) := by
  induction entered : l.entered using types.entered_induction generalizing l with
  | step entered ih =>
      subst entered
      have fields : (l.pairs.flatMap fun pair =>
          (checkField types l.entered (l.textOf pair.1.propertyName) pair.1 pair.2).warnings).Perm
            (l.extra.map (fun f => extraField (l.textOf f.propertyName) f.ident) ++
              (l.pairs.flatMap (l.allWithin types)).flatMap warnings) := by
        rw [map_extraField_eq_flatMap, List.flatMap_assoc]
        refine (List.Perm.flatMap_left _ fun pair _ => ?_).trans
          (List.flatMap_append_perm ..).symm
        refine l.warnings_checkField_perm types pair fun inner goesOn => ?_
        obtain ⟨id, fresh, entered⟩ := exists_entered_of_within goesOn
        exact ih id fresh inner entered
      rw [check_eq, Report.warnings_append, Report.warnings_join, List.flatMap_map, all_eq,
        List.flatMap_cons, warnings, List.append_assoc]
      refine (fields.append_right _).trans ?_
      rw [List.append_assoc]
      exact List.perm_append_comm.append_left _

variable {types l}

theorem mem_all_of_within {pair : Field n × Option Property} {inner level : Comparison n}
    (mem : pair ∈ l.pairs) (goesOn : l.within types pair = some inner)
    (below : level ∈ inner.all types) : level ∈ l.all types := by
  rw [all_eq]
  refine List.mem_cons_of_mem _ (List.mem_flatMap.mpr ⟨pair, mem, ?_⟩)
  rw [allWithin, goesOn]
  exact below

/-- **Every error is that of a level**: some field there does not go with its partner. -/
theorem exists_misfit_of_mem_errors {e : Mismatch} (mem : e ∈ (l.check types).errors) :
    ∃ level ∈ l.all types, ∃ f p, (f, some p) ∈ level.pairs ∧
      Misfit types (level.textOf f.propertyName) f p e := by
  induction entered : l.entered using types.entered_induction generalizing l with
  | step entered ih =>
      subst entered
      rw [check_eq, Report.errors_append, Report.errors_join, List.append_nil, List.flatMap_map,
        List.mem_flatMap] at mem
      obtain ⟨pair, memPair, mem⟩ := mem
      rcases l.checkField_cases types pair with ⟨inner, goesOn, found⟩ | ⟨-, -, misfits⟩
      · rw [found] at mem
        obtain ⟨id, fresh, entered⟩ := exists_entered_of_within goesOn
        obtain ⟨level, below, misfit⟩ := ih id fresh mem entered
        exact ⟨level, mem_all_of_within memPair goesOn below, misfit⟩
      · obtain ⟨p, partner, misfit⟩ := misfits e mem
        have paired : (pair.1, some p) ∈ l.pairs := partner ▸ memPair
        refine ⟨l, ?_, pair.1, p, paired, misfit⟩
        rw [all_eq]
        exact List.mem_cons_self ..

end Check

/-! ### Left-over members -/

theorem mem_extra_iff {l : Comparison n} {f : Field n} :
    f ∈ l.extra ↔ (f, none) ∈ l.pairs := by
  simp [extra]

/-- A field is extra only where no property of its name up to letter case is missing. -/
theorem not_same_of_extra {l : Comparison n} {f : Field n} {p : Property} (memF : f ∈ l.extra)
    (memP : p ∈ l.missing) : ¬ Text.sameIgnoringCase p.name f.propertyName := by
  have alone : (f.propertyName, none) ∈
      (l.fields.map Field.propertyName).zip l.pairing.partners := by
    rw [List.zip_map_left]
    exact List.mem_map_of_mem (f := Prod.map Field.propertyName id) (mem_extra_iff.mp memF)
  exact Pairing.not_same_of_unpartnered alone memP

end Comparison

/-! ### The warnings of a model -/

namespace Model

variable {n : Nat}

/-- What the check of a model compares first. -/
def comparison (m : Model n) (c : Collection) : Comparison n where
  entered := []
  path := []
  fields := m.propertyFields
  properties := c.properties

/-- How the reference fields of a model are paired with the references of a collection. -/
def referencePairing (m : Model n) (c : Collection) : Pairing Reference :=
  Pairing.ofNames (·.name) (referenceNames m) c.references

/-- How the vector fields of a model are paired with the vectors of a collection. -/
def vectorPairing (m : Model n) (c : Collection) : Pairing NamedVector :=
  Pairing.ofNames (·.name) (vectorNames m) c.vectors

theorem report_eq_check (types : Catalog n) (m : Model n) (c : Collection) :
    m.report types c =
      (m.comparison c).check types ++ checkVectors m c ++ checkReferences m c := rfl

theorem mem_unpaired_iff {α : Type} {names : List String} {pairing : Pairing α} {name : String} :
    name ∈ unpaired names pairing ↔ (name, none) ∈ names.zip pairing.partners := by
  simp [unpaired]

/-- **Pairing accounts for all warnings.** Names are paired with entries by a maximum matching,
exact names first. Every level of a check warns of each property field outside the matching and of
each property outside it once; so do the references; each vector field outside the matching is
warned of once, and of nothing else is there a warning. No level warns of a field and of a
property whose names are equal up to letter case, and neither do the references. -/
theorem warnings_of_pairings (types : Catalog n) (m : Model n) (c : Collection) :
    (∀ (α : Type) (nameOf : α → String) (names : List String) (entries : List α),
        Pairing.IsMaximum nameOf names entries (Pairing.ofNames nameOf names entries)
          (Pairing.places nameOf names entries)) ∧
      (m.report types c).warnings.Perm
        (((m.comparison c).all types).flatMap Comparison.warnings ++
          (unpaired (vectorNames m) (m.vectorPairing c)).map unknownVector ++
          ((unpaired (referenceNames m) (m.referencePairing c)).map extraReference ++
            (m.referencePairing c).unclaimed.map fun r => missingReference r.name)) ∧
      (∀ l ∈ (m.comparison c).all types, ∀ f ∈ l.extra, ∀ p ∈ l.missing,
        ¬ Text.sameIgnoringCase p.name f.propertyName) ∧
      ∀ name ∈ unpaired (referenceNames m) (m.referencePairing c),
        ∀ r ∈ (m.referencePairing c).unclaimed, ¬ Text.sameIgnoringCase r.name name := by
  refine ⟨fun _ => Pairing.isMaximum_ofNames, ?_, ?_, ?_⟩
  · rw [report_eq_check, Report.warnings_append, Report.warnings_append]
    exact ((Comparison.check_warnings_perm types _).append_right _).append_right _
  · intro l _ f memF p memP
    exact Comparison.not_same_of_extra memF memP
  · intro name alone r left
    exact Pairing.not_same_of_unpartnered (mem_unpaired_iff.mp alone) left

end Model

/-! ### A tour of places

Three stops have the same name up to letter case, and there are two properties for them. -/

def tour : Model 1 where
  typeName := "Tour"
  fields := [
    { ident := "stop", valueType := .nested ⟨0, Nat.one_pos⟩ },
    { ident := "next", valueType := .nested ⟨0, Nat.one_pos⟩, property := { name := some "Stop" } },
    { ident := "last", valueType := .scalar .string, property := { name := some "stop" } },
    { ident := "guide", valueType := .scalar .uuid, reference := some { target := "Person" } },
    { ident := "driver", valueType := .scalar .uuid, reference := some { target := "Person" } },
    { ident := "map", valueType := .list (.scalar .float32), vector := some {} }]

def tourSchema : Collection where
  name := "Tour"
  properties := [
    { name := "STOP", kinds := [.object], nested := [.ofKind "City" .text, .ofKind "CITY" .text] },
    { name := "stop", kinds := [.object], nested := [withinPlace] },
    .ofKind "stops" .text]
  references := [⟨"Guide", "Person", none⟩, ⟨"drivers", "Person", none⟩]

theorem warnings_of_pairings_tour :
    (tour.report placeTypes tourSchema).warnings.map (fun w => (w.path, w.kind)) = [
        ("stop.city", .extraProperty), ("stop.tags", .extraProperty),
        ("stop.area", .extraProperty), ("Stop.tags", .extraProperty),
        ("Stop.within", .extraProperty), ("Stop.area", .extraProperty),
        ("Stop.CITY", .missingProperty), ("stop", .extraProperty), ("stops", .missingProperty),
        ("map", .unknownVector), ("driver", .extraProperty), ("drivers", .missingProperty)] ∧
      (((tour.comparison tourSchema).all placeTypes).flatMap Comparison.warnings).length = 9 ∧
      tour.comparison tourSchema ∈ (tour.comparison tourSchema).all placeTypes ∧
      (∃ f ∈ (tour.comparison tourSchema).extra, ∃ p ∈ (tour.comparison tourSchema).missing,
        f.propertyName = "stop" ∧ p.name = "stops" ∧
          ¬ Text.sameIgnoringCase p.name f.propertyName) := by
  obtain ⟨-, accounts, apart, -⟩ := Model.warnings_of_pairings placeTypes tour tourSchema
  have found : (tour.report placeTypes tourSchema).warnings.map (fun w => (w.path, w.kind)) = [
      ("stop.city", .extraProperty), ("stop.tags", .extraProperty),
      ("stop.area", .extraProperty), ("Stop.tags", .extraProperty),
      ("Stop.within", .extraProperty), ("Stop.area", .extraProperty),
      ("Stop.CITY", .missingProperty), ("stop", .extraProperty), ("stops", .missingProperty),
      ("map", .unknownVector), ("driver", .extraProperty), ("drivers", .missingProperty)] := by
    decide +kernel
  have first : tour.comparison tourSchema ∈ (tour.comparison tourSchema).all placeTypes := by
    rw [Comparison.all_eq]
    exact List.mem_cons_self ..
  refine ⟨found, ?_, first, ?_⟩
  · have total := accounts.length_eq
    rw [← List.length_map (fun w => (w.path, w.kind)), found] at total
    have others : ((unpaired (vectorNames tour) (tour.vectorPairing tourSchema)).map
        unknownVector).length = 1 ∧
          ((unpaired (referenceNames tour) (tour.referencePairing tourSchema)).map extraReference ++
            (tour.referencePairing tourSchema).unclaimed.map
              fun r => missingReference r.name).length = 2 := by
      decide +kernel
    rw [List.length_append, List.length_append, others.1, others.2] at total
    simp only [List.length_cons, List.length_nil] at total
    omega
  · have extra : (tour.comparison tourSchema).extra.map Field.propertyName = ["stop"] := by
      decide +kernel
    have missing : (tour.comparison tourSchema).missing.map (·.name) = ["stops"] := by
      decide +kernel
    obtain ⟨f, memF, nameF⟩ := List.mem_map.mp (extra ▸ List.mem_singleton_self "stop")
    obtain ⟨p, memP, nameP⟩ := List.mem_map.mp (missing ▸ List.mem_singleton_self "stops")
    exact ⟨f, memF, p, memP, nameF, nameP, apart _ first f memF p memP⟩

end CollectionSchema
