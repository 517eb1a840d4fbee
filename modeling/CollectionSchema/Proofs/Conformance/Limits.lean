import CollectionSchema.Proofs.Conformance.Comparison
import CollectionSchema.Proofs.Nesting

/-!
Checks within a limit on the types under way.

A check goes from a level to the levels inside it, one more type being under way and the path being
one name longer. Since a level is only gone into where the property there has nested properties,
the path is no longer than the properties nest deep.

* `Bounded`: where a level can be. `Bounded.within` is one step, and `Bounded.of_mem_all` says that
  all levels of a check are there.
* `checkWithin_eq`: a check that gives up beyond a limit does not give up, if as many types may be
  entered as properties are nested one inside the other, or as there are names to come by.
-/

namespace CollectionSchema

open Conformance

variable {n : Nat}

/-! ### Watched checks -/

namespace Comparison

/-- The check of a level, the levels inside it being checked by `enter`. The check of a field that
leads to no level inside enters nothing. -/
def checkBy (enter : Comparison n → Option Report) (types : Catalog n) (l : Comparison n) :
    Option Report := do
  let found ← l.pairs.mapM fun pair =>
    match l.within types pair with
    | none => some (checkField types l.entered (l.textOf pair.1.propertyName) pair.1 pair.2)
    | some inner => enter inner
  let missing := l.missing.map fun p => missingField (l.textOf p.name) p.name
  return Report.join found ++ { warnings := missing }

/-- The check of a level, as long as at most `limit` more types are entered one inside the other and
no two of the types under way have the same name. -/
def checkWithin (types : Catalog n) : Nat → Comparison n → Option Report
  | 0 => checkBy (fun _ => none) types
  | limit + 1 =>
    let enter (inner : Comparison n) : Option Report :=
      if inner.entered.Nodup then inner.checkWithin types limit else none
    checkBy enter types

end Comparison

/-- The report of a model, as long as at most `limit` types are entered one inside the other and no
two of the types under way have the same name. -/
def Model.reportWithin (m : Model n) (limit : Nat) (types : Catalog n) (c : Collection) :
    Option Report := do
  let found ← (m.comparison c).checkWithin types limit
  return found ++ checkVectors m c ++ checkReferences m c

/-! ### The levels of a check -/

namespace Comparison

variable {types : Catalog n} {m : Model n} {c : Collection} {l inner : Comparison n}
  {pair : Field n × Option Property} {limit : Nat}

theorem mem_fields_of_mem_pairs (mem : pair ∈ l.pairs) : pair.1 ∈ l.fields :=
  (List.of_mem_zip mem).1

theorem mem_properties_of_mem_pairs {f : Field n} {p : Property} (mem : (f, some p) ∈ l.pairs) :
    p ∈ l.properties := by
  have accounts := Pairing.perm_ofNames (·.name) (l.fields.map Field.propertyName) l.properties
  refine accounts.mem_iff.mp (List.mem_append_left _ (List.reduceOption_mem_iff.mpr ?_))
  exact (List.of_mem_zip mem).2

/-- A check of the model `m` and the collection `c` can come to the level `l`: its types are under
way, each for one name of its path, and the path and the properties left to go into are together
no longer than the properties of `c` nest deep. -/
structure Bounded (types : Catalog n) (m : Model n) (c : Collection) (l : Comparison n) : Prop where
  underWay : UnderWay types m.propertyFields l.entered l.fields
  path : l.path.length = l.entered.length
  depth : l.path.length + (Property.levels l.properties - 1) ≤ c.nestingDepth

namespace Bounded

theorem start (types : Catalog n) (m : Model n) (c : Collection) :
    Bounded types m c (m.comparison c) where
  underWay := .start _
  path := rfl
  depth := (Nat.zero_add _).le

/-- **One step**: inside a field one more type is under way, and one level of properties less is
left. -/
theorem within (bounded : Bounded types m c l) (mem : pair ∈ l.pairs)
    (goesOn : l.within types pair = some inner) : Bounded types m c inner := by
  obtain ⟨f, _ | p⟩ := pair
  · cases goesOn
  · obtain ⟨id, enters, rfl⟩ := within_eq_some_iff.mp goesOn
    refine ⟨bounded.underWay.enter (mem_fields_of_mem_pairs mem) enters.refers enters.fresh, ?_, ?_⟩
    · rw [List.length_append, bounded.path]
      rfl
    · show (l.path ++ [f.propertyName]).length + (Property.levels p.nested - 1) ≤ c.nestingDepth
      have depth := bounded.depth
      have below := Property.depth_lt_levels (mem_properties_of_mem_pairs mem)
      have deeper : 0 < Property.levels p.nested := by
        obtain ⟨q, memQ⟩ := List.exists_mem_of_ne_nil _ enters.nested
        exact Nat.zero_lt_of_lt (Property.depth_lt_levels memQ)
      rw [Property.depth_eq_levels] at below
      rw [List.length_append, List.length_singleton]
      omega

/-- **All levels** of a check are where it can come. -/
theorem of_mem_all (bounded : Bounded types m c l) (mem : inner ∈ l.all types) :
    Bounded types m c inner := by
  induction entered : l.entered using types.entered_induction generalizing l with
  | step entered ih =>
      subst entered
      rw [all_eq, List.mem_cons] at mem
      rcases mem with rfl | mem
      · exact bounded
      · obtain ⟨pair, memPair, mem⟩ := List.mem_flatMap.mp mem
        cases goesOn : l.within types pair with
        | none =>
            rw [allWithin, goesOn] at mem
            cases mem
        | some next =>
            rw [allWithin, goesOn] at mem
            obtain ⟨id, fresh, entered⟩ := exists_entered_of_within goesOn
            exact ih id fresh (bounded.within memPair goesOn) mem entered

theorem length_le (bounded : Bounded types m c l) :
    l.path.length ≤ min c.nestingDepth (nestedNames types m.propertyFields).card := by
  have depth := bounded.depth
  have names := bounded.underWay.length_le
  rw [← bounded.path] at names
  omega

end Bounded

theorem entered_length_of_within (goesOn : l.within types pair = some inner) :
    inner.entered.length = l.entered.length + 1 := by
  obtain ⟨id, -, entered⟩ := exists_entered_of_within goesOn
  rw [entered, List.length_cons]

/-! ### Checks that end -/

theorem checkBy_eq {enter : Comparison n → Option Report}
    (entering : ∀ pair ∈ l.pairs, ∀ inner, l.within types pair = some inner →
      enter inner = some (inner.check types)) :
    l.checkBy enter types = some (l.check types) := by
  rw [checkBy, check_eq, mapM_eq_some_map]
  · rfl
  · intro pair mem
    rcases l.checkField_cases types pair with ⟨inner, goesOn, found⟩ | ⟨stops, -⟩
    · rw [goesOn, found]
      exact entering pair mem inner goesOn
    · rw [stops]

/-- **A check ends** within as many types under way as properties are nested one inside the other,
and within as many as there are names to come by. -/
theorem checkWithin_eq (bounded : Bounded types m c l)
    (enough : min c.nestingDepth (nestedNames types m.propertyFields).card ≤
      limit + l.path.length) :
    l.checkWithin types limit = some (l.check types) := by
  induction limit generalizing l with
  | zero =>
      refine checkBy_eq fun pair mem inner goesOn => ?_
      have inside := bounded.within mem goesOn
      have longer := inside.length_le
      rw [inside.path, entered_length_of_within goesOn, ← bounded.path] at longer
      omega
  | succ limit ih =>
      refine checkBy_eq fun pair mem inner goesOn => ?_
      have inside := bounded.within mem goesOn
      rw [if_pos inside.underWay.nodup]
      refine ih inside ?_
      rw [inside.path, entered_length_of_within goesOn, ← bounded.path]
      omega

end Comparison

namespace Model

variable (types : Catalog n) (m : Model n) (c : Collection)

theorem reportWithin_eq {limit : Nat}
    (enough : min c.nestingDepth (nestedNames types m.propertyFields).card ≤ limit) :
    m.reportWithin limit types c = some (m.report types c) := by
  rw [reportWithin, Comparison.checkWithin_eq (.start types m c) enough]
  rfl

theorem exists_misfit_of_mem_errors_report {e : Mismatch} (mem : e ∈ (m.report types c).errors) :
    ∃ l ∈ (m.comparison c).all types, ∃ f p, (f, some p) ∈ l.pairs ∧
      Misfit types (l.textOf f.propertyName) f p e := by
  refine Comparison.exists_misfit_of_mem_errors ?_
  rw [report_eq_check, Report.errors_append, Report.errors_append] at mem
  simpa [checkVectors, checkReferences] using mem

/-- Every warning of a report is that of a level, or of a vector, or of a reference. -/
theorem warning_of_mem_warnings_report {w : Warning} (mem : w ∈ (m.report types c).warnings) :
    (∃ l ∈ (m.comparison c).all types, w ∈ l.warnings) ∨
      w ∈ (checkVectors m c).warnings ∨ w ∈ (checkReferences m c).warnings := by
  rw [report_eq_check, Report.warnings_append, Report.warnings_append, List.mem_append,
    List.mem_append, or_assoc,
    ((m.comparison c).check_warnings_perm types).mem_iff, List.mem_flatMap] at mem
  exact mem

end Model

end CollectionSchema
