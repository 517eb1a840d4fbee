import CollectionSchema.Proofs.Nesting
import CollectionSchema.Proofs.Synthesis.Success

/-!
Nested types in different contexts.

The property of a field is made with some types under way. These have a say in it in two ways only:
a type of one of their names is not entered, and they take up room. `Apart` says that a context has
neither say in a field, since it has no name in common with the types that the field nests, directly
or inside each other, and leaves room for all of them.

* `propertyOf_append`: whatever is under way inside a field, an apart context around it does not
  matter.
* `propertyOf_of_apart`: so a field has the same property, or the same error, in all contexts that
  are apart from it.
-/

namespace CollectionSchema

namespace Synthesis

variable {n : Nat} {types : Catalog n} {maxDepth : Nat} {typeName : String} {f : Field n}
  {inner outer : List String}

/-- `Apart maxDepth types f outer`: none of the types `outer` that are under way has the name of a
type that the field nests, and all types that it nests may be entered inside them. -/
structure Apart (maxDepth : Nat) (types : Catalog n) (f : Field n) (outer : List String) :
    Prop where
  fresh : ∀ name ∈ nestedNames types [f], name ∉ outer
  room : outer.length + (nestedNames types [f]).card ≤ maxDepth

/-- **One context inside another**: the types that are under way inside a field decide alone what
becomes of the fields that they have come to. -/
theorem propertyOf_append {fields : List (Field n)} {g : Field n}
    (apart : Apart maxDepth types f outer) (underWay : UnderWay types [f] inner fields)
    (mem : g ∈ fields) :
    propertyOf maxDepth types typeName (inner ++ outer) g =
      propertyOf maxDepth types typeName inner g := by
  induction inner using types.entered_induction generalizing typeName fields g with
  | step inner ih =>
      have nested (kind : DataKind) : nestedPropertiesOf maxDepth types kind (inner ++ outer) g =
          nestedPropertiesOf maxDepth types kind inner g := by
        rw [nestedPropertiesOf, nestedPropertiesOf]
        cases refers : g.valueType.nested? with
        | none => rfl
        | some id =>
            have reached : (types id).typeName ∈ nestedNames types [f] :=
              mem_nestedNames_iff.mpr ⟨id, underWay.nested id (.direct mem refers), rfl⟩
            have outside : (types id).typeName ∉ outer := apart.fresh _ reached
            by_cases under : (types id).typeName ∈ inner
            · simp [under]
            · -- One of the names is still to be entered, so there is room for it.
              have entered := underWay.length_lt mem refers under
              have room := apart.room
              have shallow : ¬ maxDepth ≤ inner.length := by omega
              have shallow' : ¬ maxDepth ≤ (inner ++ outer).length := by
                rw [List.length_append]
                omega
              have inside : ∀ h ∈ (types id).model.propertyFields,
                  propertyOf maxDepth types (types id).model.typeName
                      ((types id).typeName :: (inner ++ outer)) h =
                    propertyOf maxDepth types (types id).model.typeName
                      ((types id).typeName :: inner) h := by
                intro h memH
                exact ih id under (underWay.enter mem refers under) memH
              simp only [List.mem_append, under, outside, or_self, dite_false, if_neg shallow,
                if_neg shallow', mapM_congr inside]
      rw [propertyOf, propertyOf]
      simp only [nested]

/-- In an apart context, a field has the property that it has where nothing is under way. -/
theorem Apart.propertyOf_eq (apart : Apart maxDepth types f outer) :
    propertyOf maxDepth types typeName outer f = propertyOf maxDepth types typeName [] f :=
  propertyOf_append apart (.start [f]) (List.mem_singleton_self f)

/-- **A nested type expands alike in all contexts that are apart from it**: with either of two lists
of types under way, a field has the same property or the same error, as long as neither list has the
name of a type that the field nests, directly or inside, and the limit on types under way leaves
room for as many more as there are such names. -/
theorem propertyOf_of_apart {outer' : List String} (apart : Apart maxDepth types f outer)
    (apart' : Apart maxDepth types f outer') :
    propertyOf maxDepth types typeName outer f = propertyOf maxDepth types typeName outer' f := by
  rw [apart.propertyOf_eq, apart'.propertyOf_eq]

end Synthesis

/-! ### A tree in a park

A tree nests its species, and its saplings nest trees. -/

open Synthesis

/-- Trees, and their species. -/
def treeTypes : Catalog 2 := fun id =>
  if id.val = 0 then
    { typeName := "Tree"
      model :=
        { typeName := "Tree"
          fields := [
            { ident := "species", valueType := .nested ⟨1, Nat.one_lt_two⟩ },
            { ident := "saplings", valueType := .list (.nested ⟨0, Nat.two_pos⟩) }] } }
  else
    { typeName := "Species"
      model :=
        { typeName := "Species"
          fields := [{ ident := "latin_name", valueType := .scalar .string }] } }

def oldestTree : Field 2 where
  ident := "oldest_tree"
  valueType := .optional (.nested ⟨0, Nat.two_pos⟩)

theorem apart_oldestTree {outer : List String} (length : outer.length ≤ 2)
    (others : "Tree" ∉ outer ∧ "Species" ∉ outer) : Apart 4 treeTypes oldestTree outer where
  fresh := by
    intro name mem
    obtain ⟨id, -, rfl⟩ := mem_nestedNames_iff.mp mem
    rw [treeTypes]
    split
    · exact others.1
    · exact others.2
  room := by
    have names := card_nestedNames_le treeTypes [oldestTree]
    omega

/-- The saplings of the tree have no properties of their own, in the park and in the city alike. -/
theorem propertyOf_of_apart_oldestTree :
    Apart 4 treeTypes oldestTree ["Park"] ∧
      Apart 4 treeTypes oldestTree ["District", "City"] ∧
      propertyOf 4 treeTypes "District" ["District", "City"] oldestTree =
        .ok { name := "oldestTree", kinds := [.object],
              nested := [
                { name := "species", kinds := [.object], nested := [.ofKind "latinName" .text] },
                .ofKind "saplings" .objectArray] } := by
  have park : Apart 4 treeTypes oldestTree ["Park"] := apart_oldestTree (by decide) (by decide)
  have city : Apart 4 treeTypes oldestTree ["District", "City"] :=
    apart_oldestTree (by decide) (by decide)
  refine ⟨park, city, (propertyOf_of_apart city park).trans ?_⟩
  decide +kernel

end CollectionSchema
