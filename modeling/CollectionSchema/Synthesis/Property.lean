import CollectionSchema.Synthesis.Error

/-!
Properties of the fields of a model.

An object property gets the properties of its nested type. A type that is already being entered is
not entered again, so that the recursion ends, and at most `maxDepth` types may be entered one
inside the other.
-/

namespace CollectionSchema

namespace Synthesis

variable {n : Nat}

/-- The kind of a property, if it has one and its tokenization suits it. -/
def settleKind (types : Catalog n) (typeName : String) (f : Field n) :
    Except SynthesisError DataKind :=
  match f.kind? with
  | none => .error (.noKind typeName f.ident (f.valueType.text types))
  | some kind =>
    if f.property.tokenization.isSome && !kind.isText then
      .error (.tokenizedNonText f.propertyName kind)
    else
      .ok kind

/-- The property of a field with a kind and nested properties. -/
def describe (f : Field n) (kind : DataKind) (nested : List Property) : Property where
  name := f.propertyName
  kinds := [kind]
  description := f.property.description
  filterable := f.property.filterable
  searchable := f.property.searchable
  rangeFilters := f.property.rangeFilters
  tokenization := f.property.tokenization
  nested := nested

/-- Nested properties, if their names are unique. -/
def uniqueNested (parent : String) (properties : List Property) :
    Except SynthesisError (List Property) :=
  match (repeated (properties.map (·.name))).head? with
  | some name => .error (.nameClash .property s!"{parent}.{name}")
  | none => .ok properties

mutual

/-- The property of a field of the type `typeName`, the types `entered` being under way. -/
def propertyOf (maxDepth : Nat) (types : Catalog n) (typeName : String) (entered : List String)
    (f : Field n) : Except SynthesisError Property := do
  let kind ← settleKind types typeName f
  if kind.isObject then
    let nested ← nestedPropertiesOf maxDepth types kind entered f
    return describe f kind nested
  else
    return describe f kind []
termination_by 2 * types.unentered entered + 1

/-- The properties of the type that an object field nests. -/
def nestedPropertiesOf (maxDepth : Nat) (types : Catalog n) (kind : DataKind)
    (entered : List String) (f : Field n) : Except SynthesisError (List Property) :=
  match f.valueType.nested? with
  | none => .error (.noNestedType f.propertyName kind)
  | some id =>
    if _h : (types id).typeName ∈ entered then
      .ok []
    else if maxDepth ≤ entered.length then
      .error (.tooDeep f.propertyName maxDepth)
    else do
      let model := (types id).model
      let properties ← model.propertyFields.mapM fun g =>
        propertyOf maxDepth types model.typeName ((types id).typeName :: entered) g
      uniqueNested f.propertyName properties
termination_by 2 * types.unentered entered
decreasing_by
  have := types.unentered_cons_lt _h
  omega

end

end Synthesis

end CollectionSchema
