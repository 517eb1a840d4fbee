import CollectionSchema.DataKind

/-!
Properties and references, the two kinds of named members that a collection's objects have.

A property declares the kinds of its values, the first being the primary one, and an object
property has properties of its own. A reference names the collection it points into.
-/

namespace CollectionSchema

/-- How texts are split into tokens for keyword search. -/
inductive Tokenization where
  | word
  | lowercase
  | whitespace
  | field
  | trigram
  | gse
  | kagomeKr
  | kagomeJa
deriving DecidableEq, Repr

namespace Tokenization

/-- The word for a tokenization. -/
def name : Tokenization → String
  | word => "word"
  | lowercase => "lowercase"
  | whitespace => "whitespace"
  | field => "field"
  | trigram => "trigram"
  | gse => "gse"
  | kagomeKr => "kagome_kr"
  | kagomeJa => "kagome_ja"

instance : Enumeration Tokenization where
  values := [word, lowercase, whitespace, field, trigram, gse, kagomeKr, kagomeJa]
  word := name

end Tokenization

/-- A property of a collection or of an object property. -/
structure Property where
  name : String
  kinds : List DataKind
  description : Option String := none
  filterable : Option Bool := none
  searchable : Option Bool := none
  rangeFilters : Option Bool := none
  tokenization : Option Tokenization := none
  nested : List Property := []
deriving Repr, Inhabited

namespace Property

mutual

/-- Decides whether two properties are equal. -/
def decEq : (p q : Property) → Decidable (p = q)
  | ⟨name₁, kinds₁, description₁, filterable₁, searchable₁, rangeFilters₁, tokenization₁,
      nested₁⟩,
    ⟨name₂, kinds₂, description₂, filterable₂, searchable₂, rangeFilters₂, tokenization₂,
      nested₂⟩ =>
    match decEqList nested₁ nested₂ with
    | isTrue same =>
      decidable_of_iff
        (name₁ = name₂ ∧ kinds₁ = kinds₂ ∧ description₁ = description₂ ∧
          filterable₁ = filterable₂ ∧ searchable₁ = searchable₂ ∧
          rangeFilters₁ = rangeFilters₂ ∧ tokenization₁ = tokenization₂)
        (by simp [same])
    | isFalse differ => isFalse (by simp [differ])

/-- Decides whether two lists of properties are equal. -/
def decEqList : (ps qs : List Property) → Decidable (ps = qs)
  | [], [] => isTrue rfl
  | [], _ :: _ => isFalse (by simp)
  | _ :: _, [] => isFalse (by simp)
  | p :: ps, q :: qs =>
    match decEq p q, decEqList ps qs with
    | isTrue head, isTrue tail => isTrue (by rw [head, tail])
    | isFalse head, _ => isFalse fun h => head (List.cons.inj h).1
    | _, isFalse tail => isFalse fun h => tail (List.cons.inj h).2

end

instance : DecidableEq Property := decEq

/-- A property of one kind with nothing else set. -/
def ofKind (name : String) (kind : DataKind) : Property :=
  { name, kinds := [kind] }

/-- The primary kind: the first of the declared ones. -/
def kind? (p : Property) : Option DataKind :=
  p.kinds.head?

/-- The first nested property of a name. -/
def nested? (p : Property) (name : String) : Option Property :=
  p.nested.find? (·.name == name)

end Property

/-- A cross-reference into another collection. -/
structure Reference where
  name : String
  target : String
  description : Option String := none
deriving DecidableEq, Repr, Inhabited

end CollectionSchema
