import CollectionSchema.Proofs.Synthesis.Origin

/-!
The kinds that value types have, in closed form.

The kind of a value type is found by going through its options and lists one by one. All that it
depends on is the innermost type, how many lists there are around it, and whether a list is a list
of bytes, one after the other with nothing in between.

* `ValueType.kind?_eq_none_iff`, `kind?_of_no_list`, `kind?_of_one_list`: the closed form.
* `ValueType.MoreOptional.kind?_eq`: options do not matter, but between a list and bytes.
* `kind_inference`: the two together with what follows for object kinds, whose nested types are
  missing only where a field is given its kind.
-/

namespace CollectionSchema

variable {n : Nat}

namespace ValueType

/-! ### The parts of a value type -/

/-- The type inside all options and lists. -/
def innermost : ValueType n → ValueType n
  | scalar s => scalar s
  | optional inner => inner.innermost
  | list inner => inner.innermost
  | nested id => nested id
  | foreign name => foreign name

/-- How many lists there are around the innermost type. -/
def lists : ValueType n → Nat
  | scalar _ => 0
  | optional inner => inner.lists
  | list inner => inner.lists + 1
  | nested _ => 0
  | foreign _ => 0

/-- The type of the elements of the outermost list. -/
def element? : ValueType n → Option (ValueType n)
  | scalar _ => none
  | optional inner => inner.element?
  | list inner => some inner
  | nested _ => none
  | foreign _ => none

/-- `v.MoreOptional w`: the type `w` is `v` with one more option, which is not put between a list
and bytes. -/
inductive MoreOptional : ValueType n → ValueType n → Prop where
  | here (v : ValueType n) : MoreOptional v (.optional v)
  | optional {v w : ValueType n} : MoreOptional v w → MoreOptional (.optional v) (.optional w)
  | list {v w : ValueType n} : v ≠ .scalar .uint8 → MoreOptional v w →
      MoreOptional (.list v) (.list w)

variable {v w : ValueType n} {kind : DataKind}

/-! ### The closed form -/

/-- Without lists, a type has the kind of its innermost type. -/
theorem kind?_of_no_list (none : v.lists = 0) : v.kind? = v.innermost.kind? := by
  induction v with
  | scalar s => rfl
  | optional inner ih =>
      rw [lists] at none
      rw [kind?, innermost, ih none]
  | list inner => cases none
  | nested id => rfl
  | foreign name => rfl

/-- With one list, a type has the list kind of its innermost type, unless the elements are bytes. -/
theorem kind?_of_one_list (one : v.lists = 1) :
    v.kind? = if v.element? = some (.scalar .uint8) then some .blob
      else v.innermost.kind?.bind DataKind.array? := by
  induction v with
  | scalar s => cases one
  | optional inner ih =>
      rw [lists] at one
      rw [kind?, innermost, element?, ih one]
  | list inner =>
      have none : inner.lists = 0 := Nat.succ.inj one
      rw [kind?, innermost, element?, kind?_of_no_list none]
      simp only [Option.some.injEq]
  | nested id => cases one
  | foreign name => cases one

/-- A list kind has no list form, and a blob has none. -/
theorem bind_array?_of_one_list (one : v.lists = 1) : v.kind?.bind DataKind.array? = none := by
  rw [kind?_of_one_list one]
  split
  next => rfl
  next =>
    cases v.innermost.kind? with
    | none => rfl
    | some kind => cases kind <;> rfl

/-- With more lists, a type has no kind. -/
theorem kind?_of_more_lists (more : 2 ≤ v.lists) : v.kind? = none := by
  induction v with
  | scalar s => cases more
  | optional inner ih => exact ih more
  | list inner ih =>
      have listed : inner ≠ .scalar .uint8 := by
        rintro rfl
        rw [lists, lists] at more
        omega
      rw [kind?, if_neg listed]
      rw [lists] at more
      by_cases one : inner.lists = 1
      · exact bind_array?_of_one_list one
      · rw [ih (by omega)]
        rfl
  | nested id => cases more
  | foreign name => cases more

theorem kind?_innermost_eq_none_iff :
    v.innermost.kind? = none ↔
      (∃ name, v.innermost = .foreign name) ∨ v.innermost = .scalar .int128 ∨
        v.innermost = .scalar .uint128 := by
  induction v with
  | scalar s => cases s <;> simp [innermost, kind?, Scalar.kind?]
  | optional inner ih => exact ih
  | list inner ih => exact ih
  | nested id => simp [innermost, kind?]
  | foreign name => simp [innermost, kind?]

/-- Of the kinds that innermost types have, those of places and phone numbers have no list form. -/
theorem bind_array?_innermost_eq_none_iff :
    v.innermost.kind?.bind DataKind.array? = none ↔
      v.innermost.kind? = none ∨ v.innermost = .scalar .geoCoordinate ∨
        v.innermost = .scalar .phoneNumber := by
  induction v with
  | scalar s => cases s <;> simp [innermost, kind?, Scalar.kind?, DataKind.array?]
  | optional inner ih => exact ih
  | list inner ih => exact ih
  | nested id => simp [innermost, kind?, DataKind.array?]
  | foreign name => simp [innermost, kind?]

/-- Bytes are the innermost type of what has them as elements. -/
theorem innermost_of_element? {s : Scalar} (element : v.element? = some (.scalar s)) :
    v.innermost = .scalar s := by
  induction v with
  | scalar _ => cases element
  | optional inner ih => exact ih element
  | list inner =>
      obtain rfl : inner = .scalar s := Option.some.inj element
      rfl
  | nested id => cases element
  | foreign name => cases element

/-- **The types without a kind.** -/
theorem kind?_eq_none_iff :
    v.kind? = none ↔
      ((∃ name, v.innermost = .foreign name) ∨ v.innermost = .scalar .int128 ∨
          v.innermost = .scalar .uint128) ∨
        2 ≤ v.lists ∨
          v.lists = 1 ∧
            (v.innermost = .scalar .geoCoordinate ∨ v.innermost = .scalar .phoneNumber) := by
  rw [← kind?_innermost_eq_none_iff]
  obtain none | one | more : v.lists = 0 ∨ v.lists = 1 ∨ 2 ≤ v.lists := by omega
  · rw [kind?_of_no_list none, none]
    simp
  · rw [kind?_of_one_list one, one]
    split
    next bytes =>
      rw [innermost_of_element? bytes]
      simp [kind?, Scalar.kind?]
    next =>
      rw [bind_array?_innermost_eq_none_iff]
      simp
  · rw [kind?_of_more_lists more]
    simp [more]

theorem kind?_eq_blob_iff (one : v.lists = 1) :
    v.kind? = some .blob ↔ v.element? = some (.scalar .uint8) := by
  rw [kind?_of_one_list one]
  split
  next bytes => exact iff_of_true rfl bytes
  next others =>
    refine iff_of_false ?_ others
    intro blob
    obtain ⟨kind, -, listed⟩ := Option.bind_eq_some_iff.mp blob
    cases kind <;> cases listed

/-! ### Options -/

/-- **Options do not matter** but between a list and bytes. -/
theorem MoreOptional.kind?_eq (more : v.MoreOptional w) : w.kind? = v.kind? := by
  induction more with
  | here v => rfl
  | optional _ ih => exact ih
  | @list v w notBytes inner ih =>
      -- One more option does not make bytes of a type.
      have notBytes' : w ≠ .scalar .uint8 := by
        rintro rfl
        cases inner
      rw [kind?, kind?, if_neg notBytes, if_neg notBytes', ih]

/-! ### Object kinds -/

/-- Only a type with a nested type has an object kind. -/
theorem isSome_nested?_of_kind? (hasKind : v.kind? = some kind) (object : kind.isObject) :
    v.nested?.isSome := by
  induction v generalizing kind with
  | scalar s => cases s <;> cases hasKind <;> cases object
  | optional inner ih => exact ih hasKind object
  | list inner ih =>
      rw [kind?] at hasKind
      split at hasKind
      next =>
        cases hasKind
        cases object
      next =>
        obtain ⟨element, hasElement, listed⟩ := Option.bind_eq_some_iff.mp hasKind
        refine ih hasElement ?_
        rw [← DataKind.element_of_array? listed, DataKind.isObject_element]
        exact object
  | nested id => rfl
  | foreign name => cases hasKind

end ValueType

/-! ### Missing nested types -/

open Synthesis

variable {types : Catalog n} {m : Model n}

/-- A field without a nested type that has an object kind is given it. -/
theorem Field.kind_of_noType {f : Field n} {kind : DataKind} (hasKind : f.kind? = some kind)
    (object : kind.isObject) (noType : f.valueType.nested? = none) :
    f.property.kind = some kind := by
  rw [kind?, Option.or_eq_some_iff] at hasKind
  obtain given | ⟨-, inferred⟩ := hasKind
  · exact given
  · have found := ValueType.isSome_nested?_of_kind? inferred object
    rw [noType] at found
    cases found

/-- Behind a missing nested type there is a field that is met in the model and given the kind. -/
theorem Synthesizer.exists_given_of_noNestedType {s : Synthesizer} {name : String}
    {kind : DataKind} (failed : s.synthesize types m = .error (.noNestedType name kind)) :
    ∃ entered f, m.Reaches types entered f ∧ f.propertyName = name ∧
      f.property.kind = some kind ∧ kind.isObject ∧ f.valueType.nested? = none := by
  obtain ⟨typeName, entered, f, reaches, fault⟩ := exists_fault_of_synthesize (.inl rfl) failed
  refine ⟨entered, f, reaches, ?_⟩
  cases fault with
  | kind unsettled =>
      unfold settleKind at unsettled
      split at unsettled
      next => cases unsettled
      next =>
        split at unsettled
        next => cases unsettled
        next => cases unsettled
  | noType hasKind object noType =>
      exact ⟨rfl, Field.kind_of_noType hasKind object noType, object, noType⟩
  | names _ _ twice =>
      unfold uniqueNested at twice
      split at twice
      next => cases twice
      next => cases twice

/-! ### Inference -/

/-- **Kind inference in closed form.** A value type has no kind just when its innermost type has
none, when it has two lists or more, or when it is a list of places or phone numbers. Without a list
it has the kind of its innermost type. With one it is a blob just when the elements are bytes, and
has the list kind of the innermost type otherwise. So one more option changes nothing unless it
comes between a list and bytes, an object kind is inferred only where there is a nested type, and
synthesis misses a nested type only for a field that is given its kind. -/
theorem kind_inference (n : Nat) :
    (∀ v : ValueType n,
      (v.kind? = none ↔
        ((∃ name, v.innermost = .foreign name) ∨ v.innermost = .scalar .int128 ∨
            v.innermost = .scalar .uint128) ∨
          2 ≤ v.lists ∨
            v.lists = 1 ∧
              (v.innermost = .scalar .geoCoordinate ∨ v.innermost = .scalar .phoneNumber)) ∧
        (v.lists = 0 → (∀ s, v.innermost = .scalar s → v.kind? = s.kind?) ∧
          ∀ id, v.innermost = .nested id → v.kind? = some .object) ∧
        (v.lists = 1 → (v.kind? = some .blob ↔ v.element? = some (.scalar .uint8)) ∧
          (v.element? ≠ some (.scalar .uint8) →
            v.kind? = v.innermost.kind?.bind DataKind.array?)) ∧
        (∀ w, v.MoreOptional w → w.kind? = v.kind?) ∧
        ∀ kind, v.kind? = some kind → kind.isObject → v.nested?.isSome) ∧
      ∀ (s : Synthesizer) (types : Catalog n) (m : Model n) (name : String) (kind : DataKind),
        s.synthesize types m = .error (.noNestedType name kind) →
          ∃ entered f, m.Reaches types entered f ∧ f.propertyName = name ∧
            f.property.kind = some kind ∧ kind.isObject ∧ f.valueType.nested? = none := by
  refine ⟨fun v => ⟨ValueType.kind?_eq_none_iff, ?_, ?_, ?_, ?_⟩, ?_⟩
  · intro none
    rw [ValueType.kind?_of_no_list none]
    refine ⟨?_, ?_⟩
    · intro s innermost
      rw [innermost]
      rfl
    · intro id innermost
      rw [innermost]
      rfl
  · intro one
    refine ⟨ValueType.kind?_eq_blob_iff one, ?_⟩
    intro others
    rw [ValueType.kind?_of_one_list one, if_neg others]
  · intro w more
    exact more.kind?_eq
  · intro kind hasKind object
    exact ValueType.isSome_nested?_of_kind? hasKind object
  · intro s types m name kind failed
    exact Synthesizer.exists_given_of_noNestedType failed

/-! ### A sensor whose place has a floor plan

The floor plan is declared to be a list of objects, but its values are bytes. -/

def sensorTypes : Catalog 1 := fun _ =>
  { typeName := "Place"
    model :=
      { typeName := "Place"
        fields := [
          { ident := "floor_plan", valueType := .list (.scalar .uint8),
            property := { kind := some .objectArray } }] } }

def sensor : Model 1 where
  typeName := "Sensor"
  fields := [{ ident := "place", valueType := .optional (.nested ⟨0, Nat.one_pos⟩) }]

theorem kind_inference_sensor :
    let readings : ValueType 1 := .list (.optional (.scalar .uint8))
    readings.kind? = some .intArray ∧
      (ValueType.optional readings).kind? = some .intArray ∧
      (ValueType.list (.scalar .uint8) : ValueType 1).kind? = some .blob ∧
      (ValueType.list (.optional readings)).kind? = none ∧
      ({} : Synthesizer).synthesize sensorTypes sensor =
        .error (.noNestedType "floorPlan" .objectArray) ∧
      ∃ entered f, sensor.Reaches sensorTypes entered f ∧ f.propertyName = "floorPlan" ∧
        f.property.kind = some .objectArray := by
  intro readings
  obtain ⟨kinds, missing⟩ := kind_inference 1
  obtain ⟨-, -, one, more, -⟩ := kinds readings
  obtain ⟨-, -, bytes, -, -⟩ := kinds (.list (.scalar .uint8))
  obtain ⟨none, -⟩ := kinds (.list (.optional readings))
  have counts : readings.kind? = some .intArray := (one rfl).2 (by decide)
  have failed : ({} : Synthesizer).synthesize sensorTypes sensor =
      .error (.noNestedType "floorPlan" .objectArray) := by
    decide +kernel
  refine ⟨counts, ?_, (bytes rfl).1.mpr rfl, none.mpr (.inr (.inl (by decide))), failed, ?_⟩
  · rw [more _ (.here readings), counts]
  · obtain ⟨entered, f, reaches, name, given, -⟩ := missing {} sensorTypes sensor _ _ failed
    exact ⟨entered, f, reaches, name, given⟩

end CollectionSchema
