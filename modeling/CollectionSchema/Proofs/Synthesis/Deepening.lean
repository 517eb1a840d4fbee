import CollectionSchema.Proofs.Synthesis.Unfolding

/-!
Synthesis under a deeper limit.

The limit on nested types says where synthesis gives up and nothing else. Whether a type is under
way is asked before the limit is, so that a cycle is cut at the same place under every limit that
is not reached.

* `Persists`: a run gave up for its depth, or the run under the deeper limit has the same result.
  This goes through sequences of steps, traversals and the recursion through nested types.
* `synthesize_persists`: the schema or the error of a model is the same under every deeper limit,
  unless the model nests too deeply for the first one.
-/

namespace CollectionSchema

namespace Synthesis

variable {maxDepth deeper : Nat}

/-- The run `x` under the limit `maxDepth` gave up at a nested type, or the run `y` under a deeper
limit has the same result. -/
def Persists {α : Type} (maxDepth : Nat) (x y : Except SynthesisError α) : Prop :=
  (∃ field, x = .error (.tooDeep field maxDepth)) ∨ y = x

/-! ### Steps and traversals -/

namespace Persists

variable {α β : Type} {x y : Except SynthesisError α}

theorem refl (x : Except SynthesisError α) : Persists maxDepth x x :=
  .inr rfl

theorem bind {f g : α → Except SynthesisError β} (first : Persists maxDepth x y)
    (next : ∀ a, x = .ok a → Persists maxDepth (f a) (g a)) :
    Persists maxDepth (x >>= f) (y >>= g) := by
  rcases first with ⟨field, rfl⟩ | rfl
  · exact .inl ⟨field, rfl⟩
  · cases y with
    | error e => exact .inr rfl
    | ok a => exact next a rfl

theorem map (f : α → β) (first : Persists maxDepth x y) :
    Persists maxDepth (x.map f) (y.map f) := by
  rcases first with ⟨field, rfl⟩ | rfl
  · exact .inl ⟨field, rfl⟩
  · exact .inr rfl

/-- A traversal persists when every step of it does: the first step that fails fails alike, or
gives up. -/
theorem mapM {f g : α → Except SynthesisError β} {xs : List α}
    (each : ∀ a ∈ xs, Persists maxDepth (f a) (g a)) :
    Persists maxDepth (xs.mapM f) (xs.mapM g) := by
  induction xs with
  | nil => exact refl _
  | cons a xs ih =>
      rw [List.mapM_cons, List.mapM_cons]
      refine (each a (List.mem_cons_self ..)).bind fun b _ => ?_
      refine (ih fun a mem => each a (List.mem_cons_of_mem _ mem)).bind fun bs _ => ?_
      exact refl _

end Persists

/-! ### The property of a field -/

variable {n : Nat} {types : Catalog n} {typeName : String} {entered : List String} {f : Field n}

/-- The properties of a nested type persist when those of its fields do. -/
theorem nestedPropertiesOf_persists (le : maxDepth ≤ deeper) {kind : DataKind}
    (inner : ∀ id, (types id).typeName ∉ entered → ∀ g,
      Persists maxDepth
        (propertyOf maxDepth types (types id).model.typeName ((types id).typeName :: entered) g)
        (propertyOf deeper types (types id).model.typeName ((types id).typeName :: entered) g)) :
    Persists maxDepth (nestedPropertiesOf maxDepth types kind entered f)
      (nestedPropertiesOf deeper types kind entered f) := by
  rw [nestedPropertiesOf, nestedPropertiesOf]
  cases f.valueType.nested? with
  | none => exact .refl _
  | some id =>
      by_cases under : (types id).typeName ∈ entered
      · simp only [under, dite_true]
        exact .refl _
      · simp only [under, dite_false]
        by_cases deep : maxDepth ≤ entered.length
        · rw [if_pos deep]
          exact .inl ⟨f.propertyName, rfl⟩
        · have shallow : ¬ deeper ≤ entered.length := by omega
          rw [if_neg deep, if_neg shallow]
          refine (Persists.mapM fun g _ => inner id under g).bind fun ps _ => ?_
          exact .refl _

/-- **The property of a field persists** under every deeper limit. -/
theorem propertyOf_persists (le : maxDepth ≤ deeper) :
    Persists maxDepth (propertyOf maxDepth types typeName entered f)
      (propertyOf deeper types typeName entered f) := by
  induction entered using types.entered_induction generalizing typeName f with
  | step entered ih =>
      rw [propertyOf, propertyOf]
      refine (Persists.refl _).bind fun kind _ => ?_
      cases kind.isObject with
      | false => exact .refl _
      | true =>
          refine (nestedPropertiesOf_persists le fun id under g => ih id under).bind fun ps _ => ?_
          exact .refl _

theorem memberOf_persists (le : maxDepth ≤ deeper) :
    Persists maxDepth (memberOf maxDepth types typeName f) (memberOf deeper types typeName f) := by
  unfold memberOf
  cases f.vector with
  | some d =>
      cases f.reference with
      | some _ => exact .refl _
      | none => exact .refl _
  | none =>
      cases f.reference with
      | some _ => exact .refl _
      | none => exact (propertyOf_persists le).map _

end Synthesis

/-! ### The schema of a model -/

namespace Synthesizer

open Synthesis

variable {n : Nat}

/-- The synthesizer with another limit on nested types, and else with the same defaults and
hooks. -/
def withMaxDepth (s : Synthesizer) (maxDepth : Nat) : Synthesizer :=
  { s with config := { s.config with maxDepth } }

/-- Vectors are made alike under all limits, so that only the members of a schema depend on one. -/
theorem declared_persists (s : Synthesizer) (types : Catalog n) (m : Model n) {deeper : Nat}
    (le : s.config.maxDepth ≤ deeper) :
    Persists s.config.maxDepth (s.declared types m) ((s.withMaxDepth deeper).declared types m) := by
  unfold declared
  refine (Persists.refl _).bind fun _ _ => ?_
  refine (Persists.mapM fun f _ => memberOf_persists le).bind fun members _ => ?_
  exact .refl _

/-- **A decided result stays**: unless synthesis gives up because the model nests too deeply for
its limit, it has the same schema or the same error under every deeper limit. -/
theorem synthesize_persists (s : Synthesizer) (types : Catalog n) (m : Model n) {deeper : Nat}
    (le : s.config.maxDepth ≤ deeper) :
    (∃ field, s.synthesize types m = .error (.tooDeep field s.config.maxDepth)) ∨
      (s.withMaxDepth deeper).synthesize types m = s.synthesize types m := by
  refine (declared_persists s types m le).bind fun c _ => ?_
  exact .refl _

end Synthesizer

/-! ### A drive under three limits -/

theorem synthesize_persists_drive :
    let limited : Nat → Synthesizer := fun maxDepth => { config := { maxDepth } }
    3 ≤ 18446744073709551615 ∧
      (limited 2).synthesize driveTypes drive = .error (.tooDeep "versions" 2) ∧
      (limited 3).synthesize driveTypes drive = .ok driveSchema ∧
      (limited 18446744073709551615).synthesize driveTypes drive = .ok driveSchema := by
  intro limited
  have shallow : (limited 2).synthesize driveTypes drive = .error (.tooDeep "versions" 2) := by
    decide +kernel
  have enough : (limited 3).synthesize driveTypes drive = .ok driveSchema := by
    decide +kernel
  have le : 3 ≤ 18446744073709551615 := by decide
  refine ⟨le, shallow, enough, ?_⟩
  rcases (limited 3).synthesize_persists driveTypes drive le with ⟨field, gaveUp⟩ | same
  · rw [enough] at gaveUp
    cases gaveUp
  · exact same.trans enough

end CollectionSchema
