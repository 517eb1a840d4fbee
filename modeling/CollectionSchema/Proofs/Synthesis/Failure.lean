import CollectionSchema.Proofs.Synthesis.Success

/-!
What synthesis fails for.

An error is about one concern, and each step of synthesis has few of them. `FailsFor P` says
that the errors of a run are about concerns in `P` only. It goes through sequences of steps and
traversals, and `failsFor_propertyOf` takes it through the nested types of a field.
-/

namespace CollectionSchema

/-- What an error of synthesis is about. -/
inductive Concern where
  | settings
  | directives
  | kind
  | depth
  | name
  | parameter
  | source
  | hook
deriving DecidableEq

/-- The concern of an error. -/
@[simp]
def SynthesisError.concern : SynthesisError → Concern
  | settingOutOfRange .. | settingsOutOfRange .. => .settings
  | vectorAndReference .. => .directives
  | noKind .. | tokenizedNonText .. | noNestedType .. => .kind
  | tooDeep .. => .depth
  | nameClash .. => .name
  | needlessParameter .. | missingParameter .. => .parameter
  | unknownSource .. => .source
  | hookNotFound .. | wrongHookShape .. => .hook

namespace Synthesis

variable {α β : Type} {P : Concern → Prop}

/-- If the run fails, then for a concern in `P`. -/
def FailsFor (P : Concern → Prop) (r : Except SynthesisError α) : Prop :=
  ∀ e, r = .error e → P e.concern

/-! ### Steps and traversals -/

namespace FailsFor

theorem ok (a : α) : FailsFor P (.ok a : Except SynthesisError α) := by
  intro e failed
  cases failed

theorem error {e : SynthesisError} (about : P e.concern) :
    FailsFor P (.error e : Except SynthesisError α) := by
  intro e' failed
  cases failed
  exact about

theorem bind {r : Except SynthesisError α} {f : α → Except SynthesisError β}
    (first : FailsFor P r) (next : ∀ a, r = .ok a → FailsFor P (f a)) : FailsFor P (r >>= f) := by
  intro e failed
  rcases bind_eq_error_iff.mp failed with failed | ⟨a, done, failed⟩
  · exact first e failed
  · exact next a done e failed

theorem map {r : Except SynthesisError α} (f : α → β) (first : FailsFor P r) :
    FailsFor P (r.map f) :=
  fun e failed => first e (map_eq_error_iff.mp failed)

theorem mapM {f : α → Except SynthesisError β} {xs : List α} (each : ∀ a ∈ xs, FailsFor P (f a)) :
    FailsFor P (xs.mapM f) := by
  intro e failed
  obtain ⟨before, a, after, rfl, -, failed⟩ := mapM_eq_error_iff.mp failed
  exact each a (List.mem_append_right _ (List.mem_cons_self ..)) e failed

end FailsFor

/-! ### Settings and names -/

theorem failsFor_checkSettings {d : CollectionDirective} (settings : P .settings) :
    FailsFor P (checkSettings d) := by
  unfold checkSettings
  split
  · exact .ok ()
  · exact .error settings

theorem failsFor_settingOf {setting : String} {value : Int} (settings : P .settings) :
    FailsFor P (settingOf setting value) := by
  unfold settingOf
  split
  · exact .ok none
  · split
    · exact .ok _
    · exact .error settings

theorem failsFor_applySettings {d : CollectionDirective} {c : Collection}
    (settings : P .settings) : FailsFor P (applySettings d c) := by
  refine (failsFor_settingOf settings).bind fun factor _ => ?_
  refine (failsFor_settingOf settings).bind fun desiredCount _ => ?_
  exact (failsFor_settingOf settings).bind fun virtualPerPhysical _ => .ok _

theorem failsFor_requireUnique {c : Collection} (name : P .name) :
    FailsFor P (requireUnique c) := by
  unfold requireUnique
  split
  · exact .error name
  · exact .ok ()

theorem failsFor_uniqueNested {parent : String} {ps : List Property} (name : P .name) :
    FailsFor P (uniqueNested parent ps) := by
  unfold uniqueNested
  split
  · exact .error name
  · exact .ok ps

/-! ### Fields -/

variable {n : Nat} {types : Catalog n} {maxDepth : Nat} {typeName : String}
  {entered : List String} {f : Field n}

theorem failsFor_settleKind (kind : P .kind) : FailsFor P (settleKind types typeName f) := by
  unfold settleKind
  split
  · exact .error kind
  · split
    · exact .error kind
    · exact .ok _

/-- A property fails for its kind, for its depth or for the names inside it, and so does every
property inside it. -/
theorem failsFor_propertyOf (kind : P .kind) (depth : P .depth) (name : P .name) :
    FailsFor P (propertyOf maxDepth types typeName entered f) := by
  induction entered using types.entered_induction generalizing typeName f with
  | step entered ih =>
      rw [propertyOf]
      refine (failsFor_settleKind kind).bind fun settled _ => ?_
      cases settled.isObject with
      | false => exact .ok _
      | true =>
          refine FailsFor.bind ?_ fun ps _ => .ok _
          rw [nestedPropertiesOf]
          split
          · exact .error kind
          · split
            · exact .ok []
            next fresh =>
              split
              · exact .error depth
              · exact (FailsFor.mapM fun g _ => ih _ fresh).bind fun ps _ =>
                  failsFor_uniqueNested name

/-- A field that becomes no property fails only for what is said of it. -/
theorem failsFor_memberOf (directives : P .directives)
    (property : f.becomesProperty → FailsFor P (propertyOf maxDepth types typeName [] f)) :
    FailsFor P (memberOf maxDepth types typeName f) := by
  unfold memberOf
  split
  · exact .error directives
  · exact .ok _
  · exact .ok _
  next vector reference =>
    exact (property (Field.becomesProperty_iff.mpr ⟨vector, reference⟩)).map _

/-! ### Vectors and hooks -/

theorem failsFor_vectorizerOf {name : String} {d : VectorDirective} (parameter : P .parameter) :
    FailsFor P (vectorizerOf name d) := by
  unfold vectorizerOf
  cases d.vectorizer with
  | selfProvided =>
      cases firstParameter? d with
      | none => exact .ok _
      | some needless => exact .error parameter
  | ollama =>
      cases d.model with
      | none => exact .error parameter
      | some model => exact .ok _
  | centroid =>
      dsimp only
      split
      · exact .error parameter
      · exact .ok _
  | openAi | cohere | transformers | clip => exact .ok _

theorem failsFor_checkSources {name : String} {c : Collection} {v : Vectorizer}
    (source : P .source) : FailsFor P (checkSources name c v) := by
  unfold checkSources
  split
  · exact .error source
  · exact .ok ()

theorem failsFor_customizeVector {lookup : HookLookup} {d : VectorDirective} {v : NamedVector}
    (hook : P .hook) : FailsFor P (customizeVector lookup d v) := by
  unfold customizeVector
  split
  · exact .ok v
  · refine FailsFor.bind ?_ fun customize _ => .ok _
    unfold HookLookup.vector
    split
    · exact .error hook
    · exact .error hook
    · exact .ok _

theorem failsFor_vectorOf {config : SynthesisConfig} {lookup : HookLookup} {c : Collection}
    {d : VectorDirective} (parameter : P .parameter) (source : P .source) (hook : P .hook) :
    FailsFor P (vectorOf config lookup c f d) := by
  refine (failsFor_vectorizerOf parameter).bind fun vectorizer _ => ?_
  exact (failsFor_checkSources source).bind fun _ _ => failsFor_customizeVector hook

theorem failsFor_customizeCollection {lookup : HookLookup} {d : CollectionDirective}
    {c : Collection} (hook : P .hook) (name : P .name) :
    FailsFor P (customizeCollection lookup d c) := by
  unfold customizeCollection
  split
  · exact .ok c
  · refine FailsFor.bind ?_ fun customize _ =>
      (failsFor_requireUnique name).bind fun _ _ => .ok _
    unfold HookLookup.collection
    split
    · exact .error hook
    · exact .ok _
    · exact .error hook

end Synthesis

end CollectionSchema
