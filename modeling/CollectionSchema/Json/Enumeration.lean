import CollectionSchema.Json.Basic

/-!
Closed sets of values that are each written as one word.

An instance lists the values and gives each its word; reading is then the search for the value with
that word. Words are read exactly: neither letter case nor blanks are forgiven. They are written as
texts, and read from texts and from objects with the word as their only key.
-/

namespace CollectionSchema

/-- The values of a type in order, and the word each is written as. -/
class Enumeration (α : Type) where
  values : List α
  word : α → String

namespace Enumeration

variable {α : Type} [Enumeration α]

/-- The first value written as the given word. -/
def ofWord? (s : String) : Option α :=
  values.find? fun a => word a == s

/-- The word as a JSON text. -/
def toJson (a : α) : Json :=
  .string (word a)

/-- The value whose word a document is. -/
def ofJson? (j : Json) : Option α :=
  j.word?.bind ofWord?

end Enumeration

end CollectionSchema
