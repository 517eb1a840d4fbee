import CollectionSchema.Proofs.Synthesis.Success

/-!
Synthesis with hooks, which may be any functions.

The hooks of the vectors run before the names are checked for the last time in what is
declared, and what the hook of the collection returns is checked again. So a hook can add,
rename and drop as it likes, but it cannot leave a name twice.

* `synthesize_eq_customizeCollection`: the hook of the collection is applied to the schema
  that the model has without it.
* `synthesize_customized`: names are unique whatever the hooks do, errors of what is
  declared come before those of the hook, and else its result is the schema.
-/

namespace CollectionSchema

/-- The model with no hook for the collection; the hooks of the vectors stay. -/
def Model.withoutHook {n : Nat} (m : Model n) : Model n :=
  { m with directive := { m.directive with hook := none } }

namespace HookLookup

variable {lookup : HookLookup} {hook : HookName}

/-! ### Finding a hook -/

theorem collection_of_missing (missing : lookup.find? hook = none) :
    lookup.collection hook = .error (.hookNotFound (lookup.ownerOf hook) hook.name) := by
  rw [collection, missing]

theorem collection_of_vector {customize : String → NamedVector → NamedVector}
    (found : lookup.find? hook = some (.vector customize)) :
    lookup.collection hook =
      .error (.wrongHookShape (lookup.ownerOf hook) hook.name .collection .vector) := by
  rw [collection, found]

theorem collection_eq_ok_iff {customize : Collection → Collection} :
    lookup.collection hook = .ok customize ↔
      lookup.find? hook = some (.collection customize) := by
  constructor
  · intro resolved
    unfold collection at resolved
    split at resolved
    next => cases resolved
    next found =>
      cases resolved
      exact found
    next => cases resolved
  · intro found
    rw [collection, found]

end HookLookup

namespace Synthesis

variable {lookup : HookLookup} {d : CollectionDirective} {hook : HookName} {c c' : Collection}

/-! ### Applying a hook -/

theorem requireUnique_of_clash {clash : NameClash} {rest : List NameClash}
    (repeats : c.nameClashes = clash :: rest) :
    requireUnique c = .error (.nameClash clash.scope clash.name) := by
  rw [requireUnique, repeats]
  rfl

section Named

variable (named : d.hook = some hook)
include named

theorem customizeCollection_of_unresolved {e : SynthesisError}
    (unresolved : lookup.collection hook = .error e) :
    customizeCollection lookup d c = .error e := by
  rw [customizeCollection, named]
  simp only [unresolved]
  rfl

theorem customizeCollection_of_clash {customize : Collection → Collection} {clash : NameClash}
    {rest : List NameClash} (resolved : lookup.collection hook = .ok customize)
    (repeats : (customize c).nameClashes = clash :: rest) :
    customizeCollection lookup d c = .error (.nameClash clash.scope clash.name) := by
  rw [customizeCollection, named]
  simp only [resolved]
  change (requireUnique (customize c) >>= fun _ => pure (customize c)) = _
  rw [requireUnique_of_clash repeats]
  rfl

/-- A hook is applied when it is found and what it returns has unique names. -/
theorem customizeCollection_eq_ok_iff :
    customizeCollection lookup d c = .ok c' ↔
      ∃ customize, lookup.collection hook = .ok customize ∧ c' = customize c ∧
        c'.nameClashes = [] := by
  rw [customizeCollection, named]
  simp only [bind_eq_ok_iff, pure_eq_ok_iff]
  refine exists_congr fun customize => and_congr_right fun _ => ?_
  constructor
  · rintro ⟨_, unique, rfl⟩
    exact ⟨rfl, requireUnique_eq_ok_iff.mp unique⟩
  · rintro ⟨rfl, unique⟩
    exact ⟨(), requireUnique_eq_ok_iff.mpr unique, rfl⟩

end Named

end Synthesis

namespace Synthesizer

variable {n : Nat} {s : Synthesizer} {types : Catalog n} {m : Model n} {c : Collection}

open Synthesis

/-! ### The schema of a model with a hook -/

/-- Without its hook a model has the schema that it declares. -/
theorem synthesize_withoutHook : s.synthesize types m.withoutHook = s.declared types m := by
  change (s.declared types m >>= pure) = s.declared types m
  rw [bind_pure]

/-- The hook of the collection is applied to the schema that the model has without it. -/
theorem synthesize_eq_customizeCollection :
    s.synthesize types m =
      s.synthesize types m.withoutHook >>= customizeCollection (s.lookup m) m.directive := by
  rw [synthesize_withoutHook]
  rfl

/-- Whatever the hooks do, no name comes twice in a schema. -/
theorem nameClashes_of_synthesize (built : s.synthesize types m = .ok c) :
    c.nameClashes = [] := by
  obtain ⟨before, declared, customized⟩ := bind_eq_ok_iff.mp built
  cases named : m.directive.hook with
  | none =>
      rw [customizeCollection, named] at customized
      cases customized
      exact (declared_declares declared).unique
  | some hook =>
      obtain ⟨_, -, -, unique⟩ := (customizeCollection_eq_ok_iff named).mp customized
      exact unique

/-- **Hooks break nothing**: in every schema names are unique. When a model names a hook
for its collection, what is wrong with the model without it is what is wrong with the
model. Otherwise the hook is looked for, and its result is the schema unless it has a name
twice. -/
theorem synthesize_customized (s : Synthesizer) (types : Catalog n) (m : Model n) :
    (∀ c, s.synthesize types m = .ok c → c.nameClashes = []) ∧
      ∀ hook, m.directive.hook = some hook →
        (∀ e, s.synthesize types m.withoutHook = .error e → s.synthesize types m = .error e) ∧
          ∀ c, s.synthesize types m.withoutHook = .ok c →
            s.synthesize types m =
              match (s.lookup m).find? hook with
              | none => .error (.hookNotFound ((s.lookup m).ownerOf hook) hook.name)
              | some (.vector _) =>
                .error (.wrongHookShape ((s.lookup m).ownerOf hook) hook.name .collection .vector)
              | some (.collection customize) =>
                match (customize c).nameClashes with
                | [] => .ok (customize c)
                | clash :: _ => .error (.nameClash clash.scope clash.name) := by
  constructor
  · intro c built
    exact nameClashes_of_synthesize built
  · intro hook named
    constructor
    · intro e refused
      rw [synthesize_eq_customizeCollection, refused]
      rfl
    · intro c plain
      have applied : s.synthesize types m = customizeCollection (s.lookup m) m.directive c := by
        rw [synthesize_eq_customizeCollection, plain]
        rfl
      rw [applied]
      split
      next missing =>
        exact customizeCollection_of_unresolved named (HookLookup.collection_of_missing missing)
      next found =>
        exact customizeCollection_of_unresolved named (HookLookup.collection_of_vector found)
      next customize found =>
        have resolved := HookLookup.collection_eq_ok_iff.mpr found
        split
        next unique =>
          exact (customizeCollection_eq_ok_iff named).mpr ⟨customize, resolved, rfl, unique⟩
        next repeats => exact customizeCollection_of_clash named resolved repeats

end Synthesizer

/-! ### A shelf under several hooks -/

/-- A hook that adds a property, one that repeats every property, and one for vectors. -/
def shelfHooks : Hooks := .ofList [
  ("dated", .collection fun c => { c with properties := c.properties ++ [.ofKind "seen" .date] }),
  ("doubled", .collection fun c => { c with properties := c.properties ++ c.properties }),
  ("renamed", .vector fun _ v => { v with name := "meaning" })]

/-- A shelf with a label of some type, and with a hook or without. -/
def shelf (label : ValueType 0) (hook : Option HookName) : Model 0 where
  typeName := "Shelf"
  directive := { hook }
  fields := [
    { ident := "label", valueType := label },
    { ident := "embedding", valueType := .list (.scalar .float32),
      vector := some { vectorizer := .openAi, hook := some { name := "renamed" } } }]
  hooks := shelfHooks

def shelfTypes : Catalog 0 := nofun

def shelfSchema : Collection where
  name := "Shelf"
  properties := [.ofKind "label" .text]
  vectors := [
    ⟨"meaning", .openAi none none none [] none, IndexFamily.hnsw.plainIndex .cosine⟩]

theorem synthesize_customized_shelf :
    let synthesize label hook := ({} : Synthesizer).synthesize shelfTypes (shelf label hook)
    synthesize (.scalar .string) none = .ok shelfSchema ∧
      synthesize (.scalar .string) (some { name := "dated" }) =
        .ok { shelfSchema with properties := [.ofKind "label" .text, .ofKind "seen" .date] } ∧
      synthesize (.scalar .string) (some { name := "doubled" }) =
        .error (.nameClash .property "label") ∧
      synthesize (.scalar .string) (some { name := "renamed" }) =
        .error (.wrongHookShape "Shelf" "renamed" .collection .vector) ∧
      synthesize (.scalar .string) (some { name := "lost" }) =
        .error (.hookNotFound "Shelf" "lost") ∧
      synthesize (.foreign "Label") (some { name := "lost" }) =
        .error (.noKind "Shelf" "label" "Label") := by
  intro synthesize
  have plain : synthesize (.scalar .string) none = .ok shelfSchema := by decide +kernel
  have refused : synthesize (.foreign "Label") none = .error (.noKind "Shelf" "label" "Label") := by
    decide +kernel
  have applied (hook : HookName) :=
    ((Synthesizer.synthesize_customized {} shelfTypes (shelf (.scalar .string) (some hook))).2
      hook rfl).2 shelfSchema plain
  have masked (hook : HookName) :=
    ((Synthesizer.synthesize_customized {} shelfTypes (shelf (.foreign "Label") (some hook))).2
      hook rfl).1 _ refused
  exact ⟨plain, applied _, applied _, applied _, applied _, masked _⟩

end CollectionSchema
