import CollectionSchema.Proofs.Synthesis.Failure
import CollectionSchema.Proofs.Synthesis.Unfolding

/-!
Where the error of a property comes from.

A property fails for its own field or for a field that is met inside it. `Fault` lists what can be
wrong with a field itself: its kind, a missing nested type, a nested type that is too deep, or
properties of one name in the type that it opens.

* `exists_fault_of_propertyOf`: behind every error of a property there is such a field.
* `exists_fault_of_synthesize`: so there is behind every error of synthesis that is about kinds or
  depth.
-/

namespace CollectionSchema

namespace Synthesis

variable {n : Nat} {types : Catalog n} {maxDepth : Nat} {typeName : String}
  {entered : List String} {f : Field n} {m : Model n} {e : SynthesisError}

/-- `Fault maxDepth types typeName entered f e`: the field is at fault itself, and not a field
inside it, with the types `entered` under way. -/
inductive Fault (maxDepth : Nat) (types : Catalog n) (typeName : String) (entered : List String)
    (f : Field n) : SynthesisError → Prop where
  | kind {e : SynthesisError} : settleKind types typeName f = .error e →
      Fault maxDepth types typeName entered f e
  | noType {kind : DataKind} : f.kind? = some kind → kind.isObject → f.valueType.nested? = none →
      Fault maxDepth types typeName entered f (.noNestedType f.propertyName kind)
  | depth {id : Fin n} : f.opens? types entered = some id → maxDepth ≤ entered.length →
      Fault maxDepth types typeName entered f (.tooDeep f.propertyName maxDepth)
  | names {id : Fin n} {ps : List Property} {e : SynthesisError} :
      f.opens? types entered = some id →
        List.Forall₂ (fun g p => propertyOf maxDepth types (types id).model.typeName
          ((types id).typeName :: entered) g = .ok p) (types id).model.propertyFields ps →
          uniqueNested f.propertyName ps = .error e → Fault maxDepth types typeName entered f e

/-- Behind an error of nested properties, the field is at fault or a field of the type that it
opens. -/
theorem fault_of_nestedPropertiesOf {kind : DataKind} (hasKind : f.kind? = some kind)
    (object : kind.isObject)
    (failed : nestedPropertiesOf maxDepth types kind entered f = .error e) :
    Fault maxDepth types typeName entered f e ∨
      ∃ id, f.opens? types entered = some id ∧ ∃ g ∈ (types id).model.propertyFields,
        propertyOf maxDepth types (types id).model.typeName ((types id).typeName :: entered) g =
          .error e := by
  rw [nestedPropertiesOf] at failed
  split at failed
  next noType =>
    cases failed
    exact .inl (.noType hasKind object noType)
  next id refers =>
    split at failed
    next => cases failed
    next fresh =>
      have opens : f.opens? types entered = some id :=
        Field.opens?_eq_some hasKind object refers fresh
      split at failed
      next deep =>
        cases failed
        exact .inl (.depth opens deep)
      next =>
        obtain failed | ⟨ps, built, failed⟩ := bind_eq_error_iff.mp failed
        · obtain ⟨before, g, after, fields, -, failed⟩ := mapM_eq_error_iff.mp failed
          refine .inr ⟨id, opens, g, ?_, failed⟩
          rw [fields]
          exact List.mem_append_right _ (List.mem_cons_self ..)
        · exact .inl (.names opens (mapM_eq_ok_iff.mp built) failed)

/-- **A field is behind every error** of a property: the field itself, or one that is met inside
it. -/
theorem exists_fault_of_propertyOf (reaches : m.Reaches types entered f)
    (failed : propertyOf maxDepth types typeName entered f = .error e) :
    ∃ typeName entered g, m.Reaches types entered g ∧
      Fault maxDepth types typeName entered g e := by
  induction entered using types.entered_induction generalizing typeName f with
  | step entered ih =>
      rw [propertyOf] at failed
      obtain unsettled | ⟨kind, settled, failed⟩ := bind_eq_error_iff.mp failed
      · exact ⟨typeName, entered, f, reaches, .kind unsettled⟩
      obtain ⟨hasKind, -⟩ := settleKind_eq_ok_iff.mp settled
      split at failed
      next object =>
        obtain failed | ⟨_, -, failed⟩ := bind_eq_error_iff.mp failed
        · obtain fault | ⟨id, opens, g, mem, failed⟩ :=
            fault_of_nestedPropertiesOf hasKind object failed
          · exact ⟨typeName, entered, f, reaches, fault⟩
          · exact ih id (Field.fresh_of_opens? opens) (.inner reaches opens mem) failed
        · cases failed
      next => cases failed

/-- An error about kinds or depth is that of a property. -/
theorem exists_fault_of_memberOf (about : e.concern = .kind ∨ e.concern = .depth)
    (mem : f ∈ m.fields) (failed : memberOf maxDepth types typeName f = .error e) :
    ∃ typeName entered g, m.Reaches types entered g ∧
      Fault maxDepth types typeName entered g e := by
  obtain ⟨-, -, rfl⟩ | ⟨property, failed⟩ := memberOf_eq_error_iff.mp failed
  · rcases about with about | about <;> cases about
  · exact exists_fault_of_propertyOf (.top (List.mem_filter.mpr ⟨mem, property⟩)) failed

end Synthesis

namespace Synthesizer

open Synthesis

variable {n : Nat} {types : Catalog n} {m : Model n} {s : Synthesizer} {e : SynthesisError}

/-- Behind every error about kinds or depth there is a field that is met in the model. -/
theorem exists_fault_of_synthesize (about : e.concern = .kind ∨ e.concern = .depth)
    (failed : s.synthesize types m = .error e) :
    ∃ typeName entered f, m.Reaches types entered f ∧
      Fault s.config.maxDepth types typeName entered f e := by
  have elsewhere {α : Type} {r : Except SynthesisError α}
      (fails : FailsFor (fun concern => concern ≠ .kind ∧ concern ≠ .depth) r) :
      r ≠ .error e := by
    intro failed
    obtain ⟨notKind, notDepth⟩ := fails e failed
    exact about.elim notKind notDepth
  obtain failed | ⟨c, -, failed⟩ := bind_eq_error_iff.mp failed
  · unfold declared at failed
    obtain failed | ⟨_, -, failed⟩ := bind_eq_error_iff.mp failed
    · exact absurd failed (elsewhere (failsFor_checkSettings (by simp)))
    obtain failed | ⟨members, -, failed⟩ := bind_eq_error_iff.mp failed
    · obtain ⟨before, f, after, fields, -, failed⟩ := mapM_eq_error_iff.mp failed
      refine exists_fault_of_memberOf about ?_ failed
      rw [fields]
      exact List.mem_append_right _ (List.mem_cons_self ..)
    -- Once all fields have become something, their kinds and depths are settled.
    refine absurd failed (elsewhere ?_)
    refine (failsFor_requireUnique (by simp)).bind fun _ _ => ?_
    refine FailsFor.bind ?_ fun vectors _ => ?_
    · exact .mapM fun fd _ => failsFor_vectorOf (by simp) (by simp) (by simp)
    · exact (failsFor_requireUnique (by simp)).bind fun _ _ => failsFor_applySettings (by simp)
  · exact absurd failed (elsewhere (failsFor_customizeCollection (by simp) (by simp)))

end Synthesizer

end CollectionSchema
