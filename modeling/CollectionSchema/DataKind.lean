import CollectionSchema.Json.Enumeration

/-!
Data kinds: what the values of a property are.

A kind is a scalar kind or the list of one. Geo coordinates, phone numbers and blobs have no list
form. `DataKind.name` is the word for a kind, in documents and in messages.
-/

namespace CollectionSchema

/-- The kind of a property's values. -/
inductive DataKind where
  | text
  | textArray
  | int
  | intArray
  | number
  | numberArray
  | boolean
  | booleanArray
  | date
  | dateArray
  | uuid
  | uuidArray
  | geoCoordinates
  | phoneNumber
  | blob
  | object
  | objectArray
deriving DecidableEq, Repr

namespace DataKind

/-- Every kind, in the order in which kinds are listed. -/
def all : List DataKind :=
  [text, textArray, int, intArray, number, numberArray, boolean, booleanArray, date, dateArray,
    uuid, uuidArray, geoCoordinates, phoneNumber, blob, object, objectArray]

/-- The word for a kind. A list kind carries brackets after the word for its elements. -/
def name : DataKind → String
  | text => "text"
  | textArray => "text[]"
  | int => "int"
  | intArray => "int[]"
  | number => "number"
  | numberArray => "number[]"
  | boolean => "boolean"
  | booleanArray => "boolean[]"
  | date => "date"
  | dateArray => "date[]"
  | uuid => "uuid"
  | uuidArray => "uuid[]"
  | geoCoordinates => "geoCoordinates"
  | phoneNumber => "phoneNumber"
  | blob => "blob"
  | object => "object"
  | objectArray => "object[]"

/-- Whether values are lists. -/
def isArray : DataKind → Bool
  | textArray | intArray | numberArray | booleanArray | dateArray | uuidArray | objectArray => true
  | _ => false

/-- The kind of the elements of a list kind. A scalar kind is its own element kind. -/
def element : DataKind → DataKind
  | textArray => text
  | intArray => int
  | numberArray => number
  | booleanArray => boolean
  | dateArray => date
  | uuidArray => uuid
  | objectArray => object
  | scalar => scalar

/-- The list kind with the given elements, where there is one. -/
def array? : DataKind → Option DataKind
  | text => some textArray
  | int => some intArray
  | number => some numberArray
  | boolean => some booleanArray
  | date => some dateArray
  | uuid => some uuidArray
  | object => some objectArray
  | _ => none

/-- Whether values are texts or lists of texts, the kinds that may be tokenized. -/
def isText (k : DataKind) : Bool :=
  k == text || k == textArray

/-- Whether values have properties of their own. -/
def isObject (k : DataKind) : Bool :=
  k == object || k == objectArray

instance : Enumeration DataKind where
  values := all
  word := name

/-- The kind with a given name. -/
def ofName? (s : String) : Option DataKind :=
  Enumeration.ofWord? s

/-- What is said of a name that no kind has. -/
def unknownMessage (s : String) : String :=
  s!"Unknown data kind '{s}'"

/-! ### List kinds and their elements -/

@[simp]
theorem ofName?_name (k : DataKind) : ofName? k.name = some k := by
  cases k <;> rfl

theorem element_of_array? {k a : DataKind} (h : k.array? = some a) : a.element = k := by
  cases k <;> cases h <;> rfl

@[simp]
theorem isObject_element (k : DataKind) : k.element.isObject = k.isObject := by
  cases k <;> rfl

end DataKind

end CollectionSchema
