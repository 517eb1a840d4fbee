import CollectionSchema.Proofs.Catalog
import CollectionSchema.Proofs.Synthesis.Customization
import Mathlib.Data.List.Induction

/-!
Registrations of hooks, and the hooks that directives find after them.

A run is a list of registrations, made one by one from no owners at all. A registration settles
what its owner has under some names: one name when it adds a hook, every name when it replaces the
owner's hooks. What an owner has under a name is what the last registration that settles it gives.

* `hook?_apply`: a registration changes what it settles, and nothing else.
* `hook?_after_eq_some_iff`: so the last one to settle a name is the one that counts.
* `synthesize_of_sameHooks`: of all hooks, synthesis reads those that the directives of the model
  name.
* `Synthesizer.hooks_resolve`: what every directive finds after any run.
-/

namespace CollectionSchema

/-! ### Registrations -/

/-- A registration: of one more hook of an owner, or of all its hooks at once. -/
inductive Registration where
  | add (owner name : String) (hook : Hook)
  | replace (owner : String) (hooks : Hooks)

namespace Registration

/-- Whether a registration settles what an owner has under a name. -/
def settles (owner name : String) : Registration → Bool
  | add o n _ => o == owner && n == name
  | replace o _ => o == owner

/-- What a registration leaves under a name that it settles. -/
def leaves (name : String) : Registration → Option Hook
  | add _ _ hook => some hook
  | replace _ hooks => hooks.get? name

/-- `r.Gives owner name hook`: the registration `r` gives an owner a hook under a name, on its own
or among others. -/
inductive Gives (owner name : String) (hook : Hook) : Registration → Prop where
  | add : Gives owner name hook (.add owner name hook)
  | replace {hooks : Hooks} :
      hooks.get? name = some hook → Gives owner name hook (.replace owner hooks)

/-- Makes a registration. -/
def apply (owners : HookOwners) : Registration → HookOwners
  | add owner name hook => owners.add owner name hook
  | replace owner hooks => owners.replace owner hooks

theorem gives_iff {owner name : String} {hook : Hook} {r : Registration} :
    r.Gives owner name hook ↔ r.settles owner name ∧ r.leaves name = some hook := by
  constructor
  · intro gives
    cases gives with
    | add => exact ⟨by simp [settles], rfl⟩
    | replace found => exact ⟨by simp [settles], found⟩
  · rintro ⟨settled, left⟩
    cases r with
    | add o n h =>
        obtain ⟨rfl, rfl⟩ : o = owner ∧ n = name := by simpa [settles] using settled
        obtain rfl : h = hook := Option.some.inj left
        exact .add
    | replace o hooks =>
        obtain rfl : o = owner := by simpa [settles] using settled
        exact .replace left

end Registration

namespace HookOwners

/-- The hook that an owner has under a name. -/
def hook? (owners : HookOwners) (owner name : String) : Option Hook :=
  (owners.get? owner).bind fun hooks => hooks.get? name

/-- The hooks of all owners after a run of registrations. -/
def after (registrations : List Registration) : HookOwners :=
  registrations.foldl Registration.apply []

variable {owner name : String} {hook : Hook} {registrations : List Registration}

theorem hook?_add (owners : HookOwners) (o n : String) (h : Hook) :
    (owners.add o n h).hook? owner name =
      if o = owner ∧ n = name then some h else owners.hook? owner name := by
  rw [hook?, add, Table.get?_set]
  by_cases theOwner : o = owner
  · subst theOwner
    have before : ((owners.get? o).getD []).get? name = owners.hook? o name := by
      rw [hook?]
      cases owners.get? o <;> rfl
    simp only [if_true, Option.bind_some, Table.get?_set, before, true_and, eq_comm]
  · simp [theOwner, Ne.symm theOwner, hook?]

theorem hook?_replace (owners : HookOwners) (o : String) (hooks : Hooks) :
    (owners.replace o hooks).hook? owner name =
      if o = owner then hooks.get? name else owners.hook? owner name := by
  rw [hook?, replace, Table.get?_set]
  by_cases theOwner : o = owner
  · simp [theOwner]
  · simp [theOwner, Ne.symm theOwner, hook?]

/-- A registration changes what it settles, and nothing else: other owners keep their hooks, and so
do the other names of an owner that a hook is added to. -/
theorem hook?_apply (owners : HookOwners) (r : Registration) :
    (r.apply owners).hook? owner name =
      if r.settles owner name then r.leaves name else owners.hook? owner name := by
  cases r with
  | add o n h => simp [Registration.apply, Registration.settles, Registration.leaves, hook?_add]
  | replace o hooks =>
      simp [Registration.apply, Registration.settles, Registration.leaves, hook?_replace]

/-- What an owner has under a name is what the last registration that settles it leaves. The
induction is on the run from its end. -/
theorem hook?_after (registrations : List Registration) (owner name : String) :
    (after registrations).hook? owner name =
      (registrations.reverse.find? (Registration.settles owner name)).bind
        (Registration.leaves name) := by
  induction registrations using List.reverseRecOn with
  | nil => rfl
  | append_singleton registrations r ih =>
      have last : after (registrations ++ [r]) = r.apply (after registrations) :=
        List.foldl_concat ..
      rw [last, hook?_apply, ih]
      by_cases settled : r.settles owner name <;> simp [settled]

/-- An owner has a hook under a name when a registration gives it, and no later one settles the
name. -/
theorem hook?_after_eq_some_iff :
    (after registrations).hook? owner name = some hook ↔
      ∃ before r since, registrations = before ++ r :: since ∧ r.Gives owner name hook ∧
        ∀ later ∈ since, ¬ later.settles owner name := by
  rw [hook?_after, Option.bind_eq_some_iff]
  simp only [find?_reverse_eq_some_iff, Registration.gives_iff]
  constructor
  · rintro ⟨r, ⟨settled, before, since, split, others⟩, left⟩
    exact ⟨before, r, since, split, ⟨settled, left⟩, others⟩
  · rintro ⟨before, r, since, split, ⟨settled, left⟩, others⟩
    exact ⟨r, ⟨settled, before, since, split, others⟩, left⟩

end HookOwners

/-! ### Lookups -/

namespace HookLookup

variable {lookup lookup' : HookLookup} {h : HookName}

/-- `lookup.Answers h`: what a directive is told that names `h`. The hook that is found is answered
where its shape is needed, and its shape is refused where the other one is; a hook that is not
found is missed under the name of its owner. -/
structure Answers (lookup : HookLookup) (h : HookName) : Prop where
  missing : lookup.find? h = none →
    lookup.collection h = .error (.hookNotFound (lookup.ownerOf h) h.name) ∧
      lookup.vector h = .error (.hookNotFound (lookup.ownerOf h) h.name)
  collection : ∀ customize, lookup.find? h = some (.collection customize) →
    lookup.collection h = .ok customize ∧
      lookup.vector h = .error (.wrongHookShape (lookup.ownerOf h) h.name .vector .collection)
  vector : ∀ customize, lookup.find? h = some (.vector customize) →
    lookup.collection h = .error (.wrongHookShape (lookup.ownerOf h) h.name .collection .vector) ∧
      lookup.vector h = .ok customize

theorem answers (lookup : HookLookup) (h : HookName) : lookup.Answers h where
  missing missing := ⟨collection_of_missing missing, by rw [HookLookup.vector, missing]⟩
  collection _ found := ⟨collection_eq_ok_iff.mpr found, by rw [HookLookup.vector, found]⟩
  vector _ found := ⟨collection_of_vector found, by rw [HookLookup.vector, found]⟩

section Congruence

variable (typeName : lookup'.typeName = lookup.typeName) (same : lookup'.find? h = lookup.find? h)
include typeName same

theorem collection_congr : lookup'.collection h = lookup.collection h := by
  unfold HookLookup.collection ownerOf
  rw [same, typeName]

theorem vector_congr : lookup'.vector h = lookup.vector h := by
  unfold HookLookup.vector ownerOf
  rw [same, typeName]

end Congruence

end HookLookup

/-! ### Synthesis under different hooks -/

variable {n : Nat}

namespace Model

/-- The hooks that the directives of a model name: the one of the collection and those of its
vectors. -/
def hookNames (m : Model n) : List HookName :=
  m.directive.hook.toList ++ (Synthesis.vectorDirectives m.fields).filterMap fun fd => fd.2.hook

variable {m : Model n} {h : HookName}

theorem mem_hookNames_of_directive (named : m.directive.hook = some h) : h ∈ m.hookNames :=
  List.mem_append_left _ (by simp [named])

theorem mem_hookNames_of_vector {fd : Field n × VectorDirective}
    (mem : fd ∈ Synthesis.vectorDirectives m.fields) (named : fd.2.hook = some h) :
    h ∈ m.hookNames :=
  List.mem_append_right _ (List.mem_filterMap.mpr ⟨fd, mem, named⟩)

end Model

namespace Synthesis

variable {lookup lookup' : HookLookup}

/-- A vector is the same under lookups that find the same for its hook. -/
theorem vectorOf_of_sameHook {config : SynthesisConfig} {c : Collection} {f : Field n}
    {d : VectorDirective} (typeName : lookup'.typeName = lookup.typeName)
    (same : ∀ h, d.hook = some h → lookup'.find? h = lookup.find? h) :
    vectorOf config lookup' c f d = vectorOf config lookup c f d := by
  unfold vectorOf customizeVector
  cases named : d.hook with
  | none => rfl
  | some h => simp only [HookLookup.vector_congr typeName (same h named)]

theorem customizeCollection_of_sameHook {c : Collection} {d : CollectionDirective}
    (typeName : lookup'.typeName = lookup.typeName)
    (same : ∀ h, d.hook = some h → lookup'.find? h = lookup.find? h) :
    customizeCollection lookup' d c = customizeCollection lookup d c := by
  unfold customizeCollection
  cases named : d.hook with
  | none => rfl
  | some h => simp only [HookLookup.collection_congr typeName (same h named)]

end Synthesis

namespace Synthesizer

open Synthesis

variable {s : Synthesizer} {types : Catalog n} {m : Model n} {owners : HookOwners} {hooks : Hooks}

/-- **Of all hooks, synthesis reads those that the directives of the model name.** -/
theorem synthesize_of_sameHooks
    (same : ∀ h ∈ m.hookNames,
      (({ s with owners }).lookup { m with hooks }).find? h = (s.lookup m).find? h) :
    ({ s with owners }).synthesize types { m with hooks } = s.synthesize types m := by
  have vectors (members : List (Member n))
      (traversed : m.fields.mapM (memberOf s.config.maxDepth types m.typeName) = .ok members)
      (base : Collection) :
      (vectorFields members).mapM (fun fd =>
          vectorOf s.config (({ s with owners }).lookup { m with hooks }) base fd.1 fd.2) =
        (vectorFields members).mapM fun fd =>
          vectorOf s.config (s.lookup m) base fd.1 fd.2 := by
    rw [(families_of_members (mapM_eq_ok_iff.mp traversed)).2.2]
    exact mapM_congr fun fd mem => vectorOf_of_sameHook rfl fun h named =>
      same h (Model.mem_hookNames_of_vector mem named)
  have declared : ({ s with owners }).declared types { m with hooks } = s.declared types m := by
    refine bind_congr_of_ok fun _ _ => bind_congr_of_ok fun members traversed =>
      bind_congr_of_ok fun _ _ => ?_
    exact congrArg (· >>= _) (vectors members traversed _)
  rw [synthesize, synthesize, declared]
  refine bind_congr_of_ok fun c _ => customizeCollection_of_sameHook rfl fun h named => ?_
  exact same h (Model.mem_hookNames_of_directive named)

/-- **A hook is the one registered last, and scopes stay apart.** After any run of registrations,
an owner has a hook under a name when a registration gives it, on its own or among all hooks of the
owner, and no later one settles the name. A directive that names an owner finds what the owner has,
be the owner called like the model or not, and one that names none finds what the model declares. It
is told what is missing or has the other shape. Under other owners and other hooks of the model and
of its nested types the result is the same, if the hooks that the directives of the model name are
found to be the same. -/
theorem hooks_resolve (config : SynthesisConfig) (registrations : List Registration)
    (types : Catalog n) (m : Model n) :
    let s : Synthesizer := ⟨config, HookOwners.after registrations⟩
    (∀ owner name hook, (s.lookup m).find? ⟨name, some owner⟩ = some hook ↔
        ∃ before r since, registrations = before ++ r :: since ∧ r.Gives owner name hook ∧
          ∀ later ∈ since, ¬ later.settles owner name) ∧
      (∀ name, (s.lookup m).find? ⟨name, none⟩ = m.hooks.get? name) ∧
      (∀ h, (s.lookup m).Answers h) ∧
      ∀ (owners : HookOwners) (hooks : Hooks) (types' : Catalog n), types.Agrees types' →
        (∀ h ∈ m.hookNames,
          (({ s with owners }).lookup { m with hooks }).find? h = (s.lookup m).find? h) →
        ({ s with owners }).synthesize types' { m with hooks } = s.synthesize types m := by
  intro s
  refine ⟨fun owner name hook => ?_, fun name => rfl, fun h => HookLookup.answers _ h, ?_⟩
  · exact HookOwners.hook?_after_eq_some_iff
  · intro owners hooks types' agrees same
    rw [agrees.synthesize_eq]
    exact synthesize_of_sameHooks same

end Synthesizer

/-! ### A parcel

The post office stamps parcels. Something else is registered for an owner that is called like the
model, and the model declares a hook for its vector. -/

def parcelTypes : Catalog 0 := fun id => id.elim0

/-- A hook that names collections. -/
def naming (name : String) : Hook :=
  .collection fun c => { c with name }

def sealing : Hook :=
  .vector fun name v => { v with name := name ++ "Sealed" }

def parcel (hooks : Hooks) : Model 0 where
  typeName := "Parcel"
  directive := { hook := some { name := "stamped", owner := some "Post" } }
  fields := [
    { ident := "weight", valueType := .scalar .int64 },
    { ident := "content", valueType := .list (.scalar .float32),
      vector := some { hook := some { name := "sealed" } } }]
  hooks

def post : List Registration := [
  .add "Post" "stamped" (naming "Draft"),
  .add "Post" "lost" sealing,
  .replace "Post" [("stamped", naming "Stamped"), ("weighed", sealing)],
  .add "Parcel" "sealed" (naming "Sealed"),
  .add "Post" "weighed" (naming "Weighed")]

def parcelSchema : Collection where
  name := "Stamped"
  properties := [.ofKind "weight" .int]
  vectors := [⟨"contentSealed", .selfProvided, IndexFamily.hnsw.plainIndex .cosine⟩]

theorem hooks_resolve_parcel :
    let s : Synthesizer := { owners := HookOwners.after post }
    let lookup := s.lookup (parcel [("sealed", sealing)])
    lookup.find? ⟨"stamped", some "Post"⟩ = some (naming "Stamped") ∧
      lookup.find? ⟨"weighed", some "Post"⟩ = some (naming "Weighed") ∧
      lookup.find? ⟨"sealed", some "Parcel"⟩ = some (naming "Sealed") ∧
      lookup.find? ⟨"sealed", none⟩ = some sealing ∧
      lookup.collection ⟨"sealed", none⟩ =
        .error (.wrongHookShape "Parcel" "sealed" .collection .vector) ∧
      lookup.collection ⟨"lost", some "Post"⟩ = .error (.hookNotFound "Post" "lost") ∧
      ({ s with owners := [("Post", [("stamped", naming "Stamped")])] }).synthesize parcelTypes
        (parcel [("stamped", sealing), ("sealed", sealing)]) = .ok parcelSchema := by
  intro s lookup
  obtain ⟨registered, declared, answers, results⟩ :=
    Synthesizer.hooks_resolve {} post parcelTypes (parcel [("sealed", sealing)])
  refine ⟨?_, ?_, ?_, declared "sealed", ?_, ?_, ?_⟩
  · exact (registered ..).mpr ⟨post.take 2, _, _, rfl, .replace rfl, by decide⟩
  · exact (registered ..).mpr ⟨post.take 4, _, _, rfl, .add, by decide⟩
  · exact (registered ..).mpr ⟨post.take 3, _, _, rfl, .add, by decide⟩
  · exact ((answers ⟨"sealed", none⟩).vector _ (declared "sealed")).1
  · exact ((answers ⟨"lost", some "Post"⟩).missing rfl).1
  · refine (results _ _ parcelTypes ⟨fun _ => rfl, fun _ => rfl, fun _ => rfl⟩ ?_).trans ?_
    · intro h mem
      rcases List.mem_pair.mp (mem : h ∈ [⟨"stamped", some "Post"⟩, ⟨"sealed", none⟩]) with
        rfl | rfl
      · rfl
      · rfl
    · decide +kernel

end CollectionSchema
