import CollectionSchema.Proofs.Synthesis.Customization
import CollectionSchema.Proofs.Synthesis.Origin
import Mathlib.Data.List.Duplicate

/-!
Where a name clash comes from.

Properties and references share a scope, vectors have one, and so has every level of nested
properties. A name that synthesis finds twice is the name of two fields of one scope, unless a hook
of a vector has renamed it, or the hook of the collection has left the name twice.

* `exists_clash_of_declared`: two fields behind every clash in what is declared.
* `exists_clash_of_synthesize`: the same, or what the hook of the collection returns.
-/

namespace CollectionSchema

variable {n : Nat}

/-! ### The names of fields -/

namespace Field

/-- The name that the directives of a field give to what it becomes. -/
def givenName? (f : Field n) : Option String :=
  match f.vector, f.reference with
  | some d, _ => d.name
  | none, some d => d.name
  | none, none => f.property.name

/-- The name of what a field becomes. -/
def memberName (f : Field n) : String :=
  f.givenName?.getD (Text.camelCase f.ident)

/-- The scope of the name. -/
def scope (f : Field n) : NameScope :=
  if f.vector.isSome then .vector else .property

/-- A vector with a hook, which may rename it. -/
def Hooked (f : Field n) : Prop :=
  ∃ d ∈ f.vector, d.hook.isSome

/-- The field goes by the name, or by one that its hook may have turned into it. -/
def Bears (f : Field n) (name : String) : Prop :=
  f.Hooked ∨ f.memberName = name

variable {f : Field n}

theorem memberName_of_property (property : f.becomesProperty) : f.memberName = f.propertyName := by
  obtain ⟨vector, reference⟩ := becomesProperty_iff.mp property
  rw [memberName, givenName?, vector, reference]
  rfl

theorem memberName_of_vector {d : VectorDirective} (vector : f.vector = some d) :
    f.memberName = f.vectorName d := by
  rw [memberName, givenName?, vector]
  rfl

theorem memberName_of_reference {d : ReferenceDirective} (vector : f.vector = none)
    (reference : f.reference = some d) : f.memberName = f.referenceName d := by
  rw [memberName, givenName?, vector, reference]
  rfl

end Field

namespace Model

theorem map_memberName_propertyFields (m : Model n) :
    m.propertyFields.map Field.memberName = m.propertyFields.map Field.propertyName := by
  refine List.map_congr_left fun f mem => ?_
  exact Field.memberName_of_property (List.mem_filter.mp mem).2

/-- The fields whose names are in a scope. -/
def fieldsIn (m : Model n) (scope : NameScope) : List (Field n) :=
  m.fields.filter fun f => f.scope = scope

theorem filter_fieldsIn_property (m : Model n) :
    (m.fieldsIn .property).filter Field.becomesProperty = m.propertyFields := by
  rw [fieldsIn, propertyFields, List.filter_filter]
  refine List.filter_congr fun f _ => ?_
  cases vector : f.vector <;> simp [Field.becomesProperty, Field.scope, vector]

theorem map_filter_fieldsIn_property (m : Model n) :
    ((m.fieldsIn .property).filter fun f => !f.becomesProperty).map Field.memberName =
      Conformance.referenceNames m := by
  rw [fieldsIn, List.filter_filter, Conformance.referenceNames]
  induction m.fields with
  | nil => rfl
  | cons f rest ih =>
      cases vector : f.vector with
      | some d => simpa [Field.scope, vector] using ih
      | none =>
          cases reference : f.reference with
          | none => simpa [Field.becomesProperty, vector, reference] using ih
          | some d =>
              have name := Field.memberName_of_reference vector reference
              simpa [Field.becomesProperty, Field.scope, vector, reference, name] using ih

/-- Properties and references have the names of the fields in their scope. -/
theorem memberNames_perm (m : Model n) :
    (m.propertyFields.map Field.propertyName ++ Conformance.referenceNames m).Perm
      ((m.fieldsIn .property).map Field.memberName) := by
  rw [← map_memberName_propertyFields, ← filter_fieldsIn_property,
    ← map_filter_fieldsIn_property, ← List.map_append]
  exact (List.filter_append_perm ..).map _

/-- Two fields of one scope that bear one name: fields of the model itself, or property fields
of a type that is opened in its unfolding. -/
inductive Clash (types : Catalog n) (m : Model n) :
    NameScope → String → Field n → Field n → Prop where
  | own {scope : NameScope} {name : String} {f g : Field n} :
      [f, g].Sublist (m.fieldsIn scope) → f.Bears name → g.Bears name →
        m.Clash types scope name f g
  | nested {entered : List String} {parent f g : Field n} {id : Fin n} {name : String} :
      m.Reaches types entered parent → parent.opens? types entered = some id →
        [f, g].Sublist (types id).model.propertyFields → f.memberName = name →
          g.memberName = name →
            m.Clash types .property s!"{parent.propertyName}.{name}" f g

end Model

/-! ### Names that come twice -/

theorem duplicate_of_mem_repeated {names : List String} {name : String}
    (again : name ∈ repeated names) : List.Duplicate name names :=
  List.duplicate_iff_two_le_count.mpr (mem_repeated_iff.mp again)

/-- What comes twice under a key comes from two entries. -/
theorem exists_pair_of_duplicate {α : Type} {nameOf : α → String} {entries : List α}
    {name : String} (twice : List.Duplicate name (entries.map nameOf)) :
    ∃ a b, [a, b].Sublist entries ∧ nameOf a = name ∧ nameOf b = name := by
  obtain ⟨pair, sub, same⟩ := List.sublist_map_iff.mp (List.duplicate_iff_sublist.mp twice)
  obtain ⟨a, rest, rfl, first, others⟩ := List.map_eq_cons_iff.mp same.symm
  obtain ⟨b, rest, rfl, second, others⟩ := List.map_eq_cons_iff.mp others
  obtain rfl := List.map_eq_nil_iff.mp others
  exact ⟨a, b, sub, first, second⟩

namespace Synthesis

variable {types : Catalog n} {maxDepth : Nat} {typeName : String} {entered : List String}
  {m : Model n} {f : Field n} {scope : NameScope} {name : String}

theorem FailsFor.ne_nameClash {α : Type} {r : Except SynthesisError α}
    (fails : FailsFor (· ≠ .name) r) : r ≠ .error (.nameClash scope name) := by
  intro failed
  exact fails _ failed rfl

/-! ### Checks of names -/

theorem duplicate_of_uniqueNested {parent : String} {ps : List Property}
    (failed : uniqueNested parent ps = .error (.nameClash scope name)) :
    ∃ own, List.Duplicate own (ps.map (·.name)) ∧ scope = .property ∧
      name = s!"{parent}.{own}" := by
  unfold uniqueNested at failed
  split at failed
  next own first =>
    cases failed
    exact ⟨own, duplicate_of_mem_repeated (List.mem_of_mem_head? first), rfl, rfl⟩
  next => cases failed

theorem mem_nameClashes_of_requireUnique {c : Collection}
    (failed : requireUnique c = .error (.nameClash scope name)) :
    ⟨scope, name⟩ ∈ c.nameClashes := by
  unfold requireUnique at failed
  split at failed
  next clash first =>
    cases failed
    exact List.mem_of_mem_head? first
  next => cases failed

theorem duplicate_of_mem_nameClashes {c : Collection} (clash : ⟨scope, name⟩ ∈ c.nameClashes) :
    scope = .property ∧ List.Duplicate name c.memberNames ∨
      scope = .vector ∧ List.Duplicate name c.vectorNames := by
  rw [Collection.nameClashes, List.mem_append, List.mem_map, List.mem_map] at clash
  obtain ⟨_, again, same⟩ | ⟨_, again, same⟩ := clash
  · cases same
    exact .inl ⟨rfl, duplicate_of_mem_repeated again⟩
  · cases same
    exact .inr ⟨rfl, duplicate_of_mem_repeated again⟩

/-! ### Nested properties -/

/-- A clash in the property of a field is one among the property fields of a type that is
opened in its unfolding. -/
theorem exists_clash_of_propertyOf (reaches : m.Reaches types entered f)
    (failed : propertyOf maxDepth types typeName entered f = .error (.nameClash scope name)) :
    ∃ g g', m.Clash types scope name g g' := by
  obtain ⟨_, _, parent, reached, fault⟩ := exists_fault_of_propertyOf reaches failed
  cases fault with
  | kind unsettled => exact absurd unsettled (failsFor_settleKind (by simp)).ne_nameClash
  | names opens built failed =>
      obtain ⟨own, twice, rfl, rfl⟩ := duplicate_of_uniqueNested failed
      rw [names_of_propertyOf built, ← Model.map_memberName_propertyFields] at twice
      obtain ⟨g, g', pair, first, second⟩ := exists_pair_of_duplicate twice
      exact ⟨g, g', .nested reached opens pair first second⟩

/-! ### Members -/

theorem exists_clash_of_memberOf (mem : f ∈ m.fields)
    (failed : memberOf maxDepth types typeName f = .error (.nameClash scope name)) :
    ∃ g g', m.Clash types scope name g g' := by
  obtain ⟨-, -, other⟩ | ⟨property, failed⟩ := memberOf_eq_error_iff.mp failed
  · cases other
  · exact exists_clash_of_propertyOf (.top (List.mem_filter.mpr ⟨mem, property⟩)) failed

/-- A name that two properties or references have is that of two fields. -/
theorem exists_clash_of_memberNames
    (twice : List.Duplicate name
      (m.propertyFields.map Field.propertyName ++ Conformance.referenceNames m)) :
    ∃ f g, m.Clash types .property name f g := by
  rw [List.duplicate_iff_two_le_count, m.memberNames_perm.count_eq,
    ← List.duplicate_iff_two_le_count] at twice
  obtain ⟨f, g, pair, first, second⟩ := exists_pair_of_duplicate twice
  exact ⟨f, g, .own pair (.inr first) (.inr second)⟩

theorem vector_of_mem_vectorDirectives {fields : List (Field n)} {fd : Field n × VectorDirective}
    (mem : fd ∈ vectorDirectives fields) : fd.1.vector = some fd.2 := by
  obtain ⟨f, -, directive⟩ := List.mem_filterMap.mp mem
  obtain ⟨d, vector, rfl⟩ := Option.map_eq_some_iff.mp directive
  exact vector

theorem map_fst_vectorDirectives (m : Model n) :
    (vectorDirectives m.fields).map Prod.fst = m.fieldsIn .vector := by
  rw [vectorDirectives, Model.fieldsIn]
  induction m.fields with
  | nil => rfl
  | cons f rest ih => cases vector : f.vector <;> simpa [Field.scope, vector] using ih

/-- A vector has the name of its field, if its hook has not renamed it. -/
theorem bears_of_vectorOf {config : SynthesisConfig} {lookup : HookLookup} {c : Collection}
    {d : VectorDirective} {v : NamedVector} (vector : f.vector = some d)
    (built : vectorOf config lookup c f d = .ok v) : f.Bears v.name := by
  cases hook : d.hook with
  | some _ => exact .inl ⟨d, vector, by rw [hook]; rfl⟩
  | none =>
      obtain ⟨_, -, -, rfl⟩ := (vectorOf_eq_ok_iff hook).mp built
      exact .inr (Field.memberName_of_vector vector)

/-- A name that two vectors have is that of two fields, unless hooks have renamed them. -/
theorem exists_clash_of_vectorNames {config : SynthesisConfig} {lookup : HookLookup}
    {c : Collection} {vectors : List NamedVector}
    (built : List.Forall₂ (fun fd v => vectorOf config lookup c fd.1 fd.2 = .ok v)
      (vectorDirectives m.fields) vectors)
    (twice : List.Duplicate name (vectors.map (·.name))) :
    ∃ f g, m.Clash types .vector name f g := by
  obtain ⟨v, w, pair, rfl, same⟩ := exists_pair_of_duplicate twice
  obtain ⟨sources, sub, related⟩ := exists_sublist_of_forall₂ built pair
  obtain ⟨fd, others, first, one, rfl⟩ := List.forall₂_cons_right_iff.mp related
  obtain ⟨gd, rest, second, none, rfl⟩ := List.forall₂_cons_right_iff.mp one
  obtain rfl := List.forall₂_nil_right_iff.mp none
  have fields : [fd.1, gd.1].Sublist (m.fieldsIn .vector) := by
    rw [← map_fst_vectorDirectives]
    exact sub.map Prod.fst
  have vector : fd.1.vector = some fd.2 := vector_of_mem_vectorDirectives (sub.subset (by simp))
  have vector' : gd.1.vector = some gd.2 := vector_of_mem_vectorDirectives (sub.subset (by simp))
  refine ⟨fd.1, gd.1, .own fields (bears_of_vectorOf vector first) ?_⟩
  rw [← same]
  exact bears_of_vectorOf vector' second

/-- A clash in a collection whose properties and references have the names of the fields. -/
theorem exists_clash_of_mem_nameClashes {c : Collection}
    (members : c.memberNames =
      m.propertyFields.map Field.propertyName ++ Conformance.referenceNames m)
    (vectors : List.Duplicate name c.vectorNames → ∃ f g, m.Clash types .vector name f g)
    (clash : ⟨scope, name⟩ ∈ c.nameClashes) : ∃ f g, m.Clash types scope name f g := by
  obtain ⟨rfl, twice⟩ | ⟨rfl, twice⟩ := duplicate_of_mem_nameClashes clash
  · rw [members] at twice
    exact exists_clash_of_memberNames twice
  · exact vectors twice

end Synthesis

namespace Synthesizer

open Synthesis

variable {s : Synthesizer} {types : Catalog n} {m : Model n} {scope : NameScope} {name : String}

/-- **Two fields are behind every clash** in what is declared. -/
theorem exists_clash_of_declared (failed : s.declared types m = .error (.nameClash scope name)) :
    ∃ f g, m.Clash types scope name f g := by
  unfold declared at failed
  obtain failed | ⟨_, -, failed⟩ := bind_eq_error_iff.mp failed
  · exact absurd failed (failsFor_checkSettings (by simp)).ne_nameClash
  obtain failed | ⟨members, built, failed⟩ := bind_eq_error_iff.mp failed
  · obtain ⟨before, f, after, split, -, failed⟩ := mapM_eq_error_iff.mp failed
    refine exists_clash_of_memberOf ?_ failed
    rw [split]
    exact List.mem_append_right _ (List.mem_cons_self ..)
  obtain ⟨properties, references, vectors⟩ := families_of_members (mapM_eq_ok_iff.mp built)
  have names : (Synthesis.properties members).map (·.name) ++
      (Synthesis.references members).map (·.name) =
        m.propertyFields.map Field.propertyName ++ Conformance.referenceNames m := by
    rw [names_of_propertyOf properties, references, List.map_map,
      ← m.map_name_referenceDirectives]
    rfl
  obtain failed | ⟨_, -, failed⟩ := bind_eq_error_iff.mp failed
  · refine exists_clash_of_mem_nameClashes ?_ ?_ (mem_nameClashes_of_requireUnique failed)
    · exact names
    · intro twice
      exact absurd twice (List.not_duplicate_nil name)
  obtain failed | ⟨vs, made, failed⟩ := bind_eq_error_iff.mp failed
  · obtain ⟨_, fd, _, -, -, failed⟩ := mapM_eq_error_iff.mp failed
    exact absurd failed (failsFor_vectorOf (by simp) (by simp) (by simp)).ne_nameClash
  rw [vectors] at made
  obtain failed | ⟨_, -, failed⟩ := bind_eq_error_iff.mp failed
  · refine exists_clash_of_mem_nameClashes ?_ ?_ (mem_nameClashes_of_requireUnique failed)
    · exact names
    · exact exists_clash_of_vectorNames (mapM_eq_ok_iff.mp made)
  · exact absurd failed (failsFor_applySettings (by simp)).ne_nameClash

/-- The hook of the collection returns a collection in which a name clashes, while nothing does
in what is declared. -/
def HookClash (s : Synthesizer) (types : Catalog n) (m : Model n) (scope : NameScope)
    (name : String) : Prop :=
  ∃ c hook customize, s.declared types m = .ok c ∧ m.directive.hook = some hook ∧
    (s.lookup m).collection hook = .ok customize ∧ ⟨scope, name⟩ ∈ (customize c).nameClashes

/-- Every clash is that of two fields, or the hook of the collection has left it. -/
theorem exists_clash_of_synthesize
    (failed : s.synthesize types m = .error (.nameClash scope name)) :
    s.HookClash types m scope name ∨ ∃ f g, m.Clash types scope name f g := by
  obtain failed | ⟨c, declared, failed⟩ := bind_eq_error_iff.mp failed
  · exact .inr (exists_clash_of_declared failed)
  unfold customizeCollection at failed
  split at failed
  next => cases failed
  next hook named =>
    obtain failed | ⟨customize, resolved, failed⟩ := bind_eq_error_iff.mp failed
    · unfold HookLookup.collection at failed
      split at failed <;> cases failed
    obtain failed | ⟨_, -, failed⟩ := bind_eq_error_iff.mp failed
    · have clash := mem_nameClashes_of_requireUnique failed
      exact .inl ⟨c, hook, customize, declared, named, resolved, clash⟩
    · cases failed

end Synthesizer

end CollectionSchema
