import CollectionSchema.Model.Directive
import CollectionSchema.Model.Kind
import CollectionSchema.Text.Quoted

/-!
Models: application types described field by field, with their directives and hooks.

A field becomes a vector or a reference when a directive says so and a property otherwise. The
types that fields nest are described in a catalog; two places of a catalog may bear one type name,
which is what tells nested types apart where recursion has to end.
-/

namespace CollectionSchema

/-- A field of a model. -/
structure Field (n : Nat) where
  ident : String
  valueType : ValueType n
  property : PropertyDirective := {}
  vector : Option VectorDirective := none
  reference : Option ReferenceDirective := none
deriving Repr

namespace Field

variable {n : Nat}

/-- Whether the field becomes a property. -/
def becomesProperty (f : Field n) : Bool :=
  f.vector.isNone && f.reference.isNone

/-- The name of the property: the one given, else the identifier in camel case. -/
def propertyName (f : Field n) : String :=
  f.property.name.getD (Text.camelCase f.ident)

/-- The kind of the property: the one given, else that of the value type. -/
def kind? (f : Field n) : Option DataKind :=
  f.property.kind.or f.valueType.kind?

/-- The name of the vector: the one given, else the identifier in camel case. -/
def vectorName (f : Field n) (d : VectorDirective) : String :=
  d.name.getD (Text.camelCase f.ident)

/-- The name of the reference: the one given, else the identifier in camel case. -/
def referenceName (f : Field n) (d : ReferenceDirective) : String :=
  d.name.getD (Text.camelCase f.ident)

end Field

/-- A described type. -/
structure Model (n : Nat) where
  typeName : String
  directive : CollectionDirective := {}
  fields : List (Field n) := []
  hooks : Hooks := []

namespace Model

variable {n : Nat}

/-- The name of the collection: the one given, else the type name in upper camel case. -/
def collectionName (m : Model n) : String :=
  m.directive.name.getD (Text.upperCamelCase m.typeName)

/-- The fields that become properties. -/
def propertyFields (m : Model n) : List (Field n) :=
  m.fields.filter Field.becomesProperty

end Model

/-- A type that fields may nest: the name it goes by, and its description. -/
structure NestedType (n : Nat) where
  typeName : String
  model : Model n

/-- The part of a path before the first angle bracket. -/
def withoutArguments (path : List Char) : List Char :=
  path.takeWhile (· != '<')

/-- The part of a path after its last pair of colons, if it has one. -/
def afterLastColons : List Char → Option (List Char)
  | [] => none
  | c :: rest =>
    match afterLastColons rest with
    | some found => some found
    | none =>
      match c, rest with
      | ':', ':' :: found => some found
      | _, _ => none

/-- The last name of a path, without type arguments. -/
def shortName (path : String) : String :=
  let base := withoutArguments path.toList
  String.ofList ((afterLastColons base).getD base)

namespace NestedType

variable {n : Nat}

/-- The type name without its path and its arguments. -/
def shortName (t : NestedType n) : String :=
  CollectionSchema.shortName t.typeName

/-- The text shown for a nested type when its whole name matters. -/
def text (t : NestedType n) : String :=
  "NestedType(" ++ Text.quoted t.typeName ++ ")"

end NestedType

/-- The nested types that models may refer to. -/
abbrev Catalog (n : Nat) := Fin n → NestedType n

namespace ValueType

variable {n : Nat}

/-- The text shown for a value type. -/
def text (types : Catalog n) : ValueType n → String
  | scalar s => s.text
  | optional inner => "Option<" ++ inner.text types ++ ">"
  | list inner => "Vec<" ++ inner.text types ++ ">"
  | nested id => (types id).shortName
  | foreign name => name

/-- Whether two value types are the same, nested types being told apart by their names. -/
def same (types : Catalog n) : ValueType n → ValueType n → Bool
  | scalar a, scalar b => a == b
  | optional a, optional b => same types a b
  | list a, list b => same types a b
  | nested a, nested b => (types a).typeName == (types b).typeName
  | foreign a, foreign b => a == b
  | _, _ => false

end ValueType

namespace Catalog

variable {n : Nat}

/-- The number of nested types whose names are not among those entered. -/
def unentered (types : Catalog n) (entered : List String) : Nat :=
  ((List.finRange n).filter fun id => (types id).typeName ∉ entered).length

/-- Entering a type leaves fewer to enter, so that recursion through a catalog ends. -/
theorem unentered_cons_lt (types : Catalog n) {entered : List String} {id : Fin n}
    (h : (types id).typeName ∉ entered) :
    types.unentered ((types id).typeName :: entered) < types.unentered entered := by
  have hfilter :
      (List.finRange n).filter (fun k => (types k).typeName ∉ (types id).typeName :: entered) =
        ((List.finRange n).filter fun k => (types k).typeName ∉ entered).filter
            fun k => (types k).typeName ∉ (types id).typeName :: entered := by
    rw [List.filter_filter]
    refine List.filter_congr fun k _ => ?_
    by_cases hk : (types k).typeName ∈ entered <;> simp [hk]
  rw [unentered, hfilter]
  refine List.length_filter_lt_length_iff_exists.2 ⟨id, ?_, ?_⟩
  · simpa using h
  · simp

end Catalog

end CollectionSchema
