import CollectionSchema.Proofs.Conformance.Levels
import Mathlib.Data.Fintype.Card

/-!
How deep types and properties nest.

Types may nest each other in cycles. What bounds a recursion through them is that no name comes
twice among the types under way, and that each of these names is one of the finitely many that the
recursion can come by. Properties nest as deep as their trees are high.

* `UnderWay`: where a recursion that started at some fields can be. `UnderWay.enter` is its step,
  and `UnderWay.length_le` its bound.
* `Property.length_le_depth`: no chain of properties below a property is longer than it is deep.
-/

namespace CollectionSchema

variable {n : Nat} {types : Catalog n} {roots fields : List (Field n)} {entered : List String}

/-! ### The types under way -/

open Classical in
/-- The names of the types that the fields nest, directly or inside each other. -/
noncomputable def nestedNames (types : Catalog n) (fields : List (Field n)) : Finset String :=
  (Finset.univ.filter fun id => Nests types fields id).image fun id => (types id).typeName

theorem mem_nestedNames_iff {name : String} :
    name ∈ nestedNames types fields ↔ ∃ id, Nests types fields id ∧ (types id).typeName = name := by
  simp [nestedNames]

/-- There are at most as many names as types. -/
theorem card_nestedNames_le (types : Catalog n) (fields : List (Field n)) :
    (nestedNames types fields).card ≤ n := by
  classical
  refine Finset.card_image_le.trans ((Finset.card_filter_le ..).trans ?_)
  rw [Finset.card_univ, Fintype.card_fin]

/-- `UnderWay types roots entered fields`: a recursion that started at the fields `roots` has
entered the types `entered`, the innermost first, and has come to `fields`. -/
structure UnderWay (types : Catalog n) (roots : List (Field n)) (entered : List String)
    (fields : List (Field n)) : Prop where
  nodup : entered.Nodup
  reached : ∀ name ∈ entered, name ∈ nestedNames types roots
  nested : ∀ id, Nests types fields id → Nests types roots id

namespace UnderWay

theorem start (roots : List (Field n)) : UnderWay types roots [] roots where
  nodup := List.nodup_nil
  reached := fun _ mem => absurd mem List.not_mem_nil
  nested := fun _ nests => nests

/-- **One step**: a type that a field nests is entered unless its name is under way. -/
theorem enter (underWay : UnderWay types roots entered fields) {f : Field n} {id : Fin n}
    (mem : f ∈ fields) (refers : f.valueType.nested? = some id)
    (fresh : (types id).typeName ∉ entered) :
    UnderWay types roots ((types id).typeName :: entered) (types id).model.propertyFields := by
  have nests : Nests types fields id := .direct mem refers
  refine ⟨List.nodup_cons.mpr ⟨fresh, underWay.nodup⟩, ?_, ?_⟩
  · intro name memName
    rcases List.mem_cons.mp memName with rfl | memName
    · exact mem_nestedNames_iff.mpr ⟨id, underWay.nested id nests, rfl⟩
    · exact underWay.reached name memName
  · intro inside inner
    exact underWay.nested inside (nests.trans inner)

/-- **The bound**: no more types are under way than there are names to come by. -/
theorem length_le (underWay : UnderWay types roots entered fields) :
    entered.length ≤ (nestedNames types roots).card := by
  rw [← List.toFinset_card_of_nodup underWay.nodup]
  refine Finset.card_le_card fun name mem => ?_
  exact underWay.reached name (List.mem_toFinset.mp mem)

/-- Where a field nests a type whose name is not under way, one more type can be entered. -/
theorem length_lt (underWay : UnderWay types roots entered fields) {f : Field n} {id : Fin n}
    (mem : f ∈ fields) (refers : f.valueType.nested? = some id)
    (fresh : (types id).typeName ∉ entered) :
    entered.length < (nestedNames types roots).card := by
  have bound := (underWay.enter mem refers fresh).length_le
  rw [List.length_cons] at bound
  exact bound

end UnderWay

/-! ### The depth of properties -/

mutual

/-- How many levels of properties there are below a property. -/
def Property.depth : Property → Nat
  | ⟨_, _, _, _, _, _, _, nested⟩ => Property.levels nested

/-- How many levels some properties and those below them make up. -/
def Property.levels : List Property → Nat
  | [] => 0
  | p :: ps => max (p.depth + 1) (levels ps)

end

namespace Property

variable {p q : Property} {ps : List Property} {k : Nat}

theorem depth_eq_levels (p : Property) : p.depth = levels p.nested := by
  cases p
  rw [depth]

theorem levels_le_iff : levels ps ≤ k ↔ ∀ p ∈ ps, p.depth < k := by
  induction ps with
  | nil => simp [levels]
  | cons p ps ih => rw [levels, Nat.max_le, ih, List.forall_mem_cons, Nat.succ_le_iff]

theorem depth_lt_levels (mem : p ∈ ps) : p.depth < levels ps :=
  levels_le_iff.mp (Nat.le_refl _) p mem

theorem depth_le_iff : p.depth ≤ k ↔ ∀ q ∈ p.nested, q.depth < k := by
  rw [depth_eq_levels, levels_le_iff]

/-- A chain of properties, each nested in the one before. -/
def IsNestedChain (chain : List Property) : Prop :=
  chain.IsChain fun p q => q ∈ p.nested

/-- No chain below a property is longer than the property is deep. -/
theorem length_le_depth {chain : List Property} (nested : IsNestedChain (p :: chain)) :
    chain.length ≤ p.depth := by
  induction chain generalizing p with
  | nil => exact Nat.zero_le _
  | cons q chain ih =>
      obtain ⟨mem, rest⟩ := List.isChain_cons_cons.mp nested
      have below := depth_le_iff.mp (Nat.le_refl p.depth) q mem
      have bound := ih rest
      rw [List.length_cons]
      omega

end Property

/-- How many properties of a collection are nested one inside the other, the outermost not
counted. -/
def Collection.nestingDepth (c : Collection) : Nat :=
  Property.levels c.properties - 1

theorem Collection.nestingDepth_le_iff {c : Collection} {k : Nat} :
    c.nestingDepth ≤ k ↔ ∀ p ∈ c.properties, p.depth ≤ k := by
  rw [nestingDepth, Nat.sub_le_iff_le_add, Property.levels_le_iff]
  simp only [Nat.lt_succ_iff]

end CollectionSchema
