import CollectionSchema.Conformance.Check

/-!
The check of one field against its property.

`Misfit` says what is wrong with a field, and `Enters` when the check goes on inside the
type that the field nests; the two exclude each other. `checkField_cases`: a check finds
what is wrong, or is the check of the nested level, or finds nothing.
-/

namespace CollectionSchema.Conformance

variable {n : Nat} {types : Catalog n} {entered : List String} {f : Field n} {p : Property}

/-- What is wrong with a field at a path when it stands against a property: it has no
kind, or a kind other than the primary kind of the property. -/
inductive Misfit (types : Catalog n) (path : String) (f : Field n) (p : Property) :
    Mismatch → Prop where
  | noKind : f.kind? = none →
      Misfit types path f p
        { path
          message := s!"Field type {f.valueType.text types} maps to no data kind"
          kind := .noKind
          expected := p.kind?
          actual := none }
  | arrayMismatch {expected actual : DataKind} :
      f.kind? = some actual → p.kind? = some expected → expected ≠ actual →
      expected.element = actual.element → expected.isArray ≠ actual.isArray →
      Misfit types path f p
        { path
          message :=
            s!"Schema declares {expected.name} but the model field is {actual.name}; " ++
              "array and scalar values are not interchangeable"
          kind := .arrayMismatch
          expected := some expected
          actual := some actual }
  | typeMismatch {expected actual : DataKind} :
      f.kind? = some actual → p.kind? = some expected → expected ≠ actual →
      ¬ (expected.element = actual.element ∧ expected.isArray ≠ actual.isArray) →
      Misfit types path f p
        { path
          message := s!"Schema declares {expected.name} but the model field is {actual.name}"
          kind := .typeMismatch
          expected := some expected
          actual := some actual }

/-- The field and the property are the same kind of object, the property has nested
properties, and the field nests the type `id`, which is not under way. -/
structure Enters (types : Catalog n) (entered : List String) (f : Field n) (p : Property)
    (id : Fin n) : Prop where
  objects : ∃ kind, f.kind? = some kind ∧ p.kind? = some kind ∧ kind.isObject
  nested : p.nested ≠ []
  refers : f.valueType.nested? = some id
  fresh : (types id).typeName ∉ entered

theorem Misfit.path_eq {path : String} {e : Mismatch} (misfit : Misfit types path f p e) :
    e.path = path := by
  cases misfit <;> rfl

theorem misfit_kindMismatch {path : String} {expected actual : DataKind}
    (hasKind : f.kind? = some actual) (primary : p.kind? = some expected)
    (differ : expected ≠ actual) : Misfit types path f p (kindMismatch path expected actual) := by
  unfold kindMismatch
  split
  case isTrue arrays => exact .arrayMismatch hasKind primary differ arrays.1 arrays.2
  case isFalse other => exact .typeMismatch hasKind primary differ other

/-- A field whose kind no primary kind gainsays is not a misfit. -/
theorem not_misfit {path : String} {kind : DataKind} (hasKind : f.kind? = some kind)
    (agree : ∀ expected, p.kind? = some expected → expected = kind) (e : Mismatch) :
    ¬ Misfit types path f p e := by
  intro misfit
  cases misfit with
  | noKind kindless => cases kindless.symm.trans hasKind
  | arrayMismatch actual expected differ
  | typeMismatch actual expected differ =>
      exact differ ((agree _ expected).trans (Option.some.inj (hasKind.symm.trans actual)))

/-- Where something is wrong with a field, the check goes no deeper. -/
theorem Misfit.not_enters {path : String} {e : Mismatch} (misfit : Misfit types path f p e)
    (id : Fin n) : ¬ Enters types entered f p id := by
  intro enters
  obtain ⟨kind, hasKind, primary, -⟩ := enters.objects
  refine not_misfit hasKind ?_ e misfit
  intro expected declared
  exact Option.some.inj (declared.symm.trans primary)

theorem checkField_of_enters {path : String} {id : Fin n} (enters : Enters types entered f p id) :
    checkField types entered path f (some p) =
      checkProperties types ((types id).typeName :: entered) path
        (types id).model.propertyFields p.nested := by
  obtain ⟨kind, hasKind, primary, object⟩ := enters.objects
  rw [checkField]
  simp [hasKind, primary, object, enters.nested, enters.refers, enters.fresh]

theorem checkField_of_closed {path : String} {kind : DataKind} (hasKind : f.kind? = some kind)
    (primary : p.kind? = some kind) (closed : ∀ id, ¬ Enters types entered f p id) :
    checkField types entered path f (some p) = {} := by
  rw [checkField]
  simp only [hasKind, primary, ne_eq, not_true_eq_false, if_false, Bool.or_eq_true,
    Bool.not_eq_true', List.isEmpty_iff]
  split
  case isTrue flat => rfl
  case isFalse deep =>
      cases refers : f.valueType.nested? with
      | none => rfl
      | some id =>
          by_cases under : (types id).typeName ∈ entered
          · simp only [under, dite_true]
          · obtain ⟨object, nested⟩ := not_or.mp deep
            refine absurd ?_ (closed id)
            exact ⟨⟨kind, hasKind, primary, by simpa using object⟩, nested, refers, under⟩

/-- The check of a field against its property finds what is wrong with the field, or
enters the type that the field nests, or finds nothing. -/
theorem checkField_cases (types : Catalog n) (entered : List String) (path : String)
    (f : Field n) (p : Property) :
    (∃ e, Misfit types path f p e ∧ checkField types entered path f (some p) = .ofError e) ∨
      (∃ id, Enters types entered f p id ∧
        checkField types entered path f (some p) =
          checkProperties types ((types id).typeName :: entered) path
            (types id).model.propertyFields p.nested) ∨
      ((∀ path e, ¬ Misfit types path f p e) ∧ (∀ id, ¬ Enters types entered f p id) ∧
        checkField types entered path f (some p) = {}) := by
  cases hasKind : f.kind? with
  | none =>
      refine .inl ⟨_, .noKind hasKind, ?_⟩
      rw [checkField, hasKind]
      rfl
  | some actual =>
      cases primary : p.kind? with
      | none =>
          have unprimed : ∀ expected, p.kind? = some expected → expected = actual := by
            intro expected declared
            cases primary.symm.trans declared
          refine .inr (.inr ⟨fun _ => not_misfit hasKind unprimed, ?_, ?_⟩)
          · intro id enters
            obtain ⟨kind, -, declared, -⟩ := enters.objects
            cases primary.symm.trans declared
          · rw [checkField, hasKind, primary]
      | some expected =>
          by_cases same : expected = actual
          · subst same
            have agree : ∀ kind, p.kind? = some kind → kind = expected := by
              intro kind declared
              exact Option.some.inj (declared.symm.trans primary)
            by_cases deeper : ∃ id, Enters types entered f p id
            · obtain ⟨id, enters⟩ := deeper
              exact .inr (.inl ⟨id, enters, checkField_of_enters enters⟩)
            · have closed := not_exists.mp deeper
              exact .inr (.inr ⟨fun _ => not_misfit hasKind agree, closed,
                checkField_of_closed hasKind primary closed⟩)
          · refine .inl ⟨_, misfit_kindMismatch hasKind primary same, ?_⟩
            rw [checkField, hasKind, primary]
            simp [same]

end CollectionSchema.Conformance
