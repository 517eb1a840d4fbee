import CollectionSchema.DataKind
import CollectionSchema.Model.ValueType

/-!
The kind of data that values of a type are stored as.

An option is stored as its values are. A list of bytes is a blob, any other list has the list kind
of its elements, and there are no lists of lists.
-/

namespace CollectionSchema

/-- The kind of a scalar. Integers of more than 64 bits have none. -/
def Scalar.kind? : Scalar → Option DataKind
  | string | char => some .text
  | int8 | int16 | int32 | int64 | uint8 | uint16 | uint32 | uint64 => some .int
  | int128 | uint128 => none
  | float32 | float64 => some .number
  | bool => some .boolean
  | dateTime => some .date
  | uuid => some .uuid
  | geoCoordinate => some .geoCoordinates
  | phoneNumber => some .phoneNumber

/-- The kind of a value type. A list kind has no list form, so that a list of lists has no kind. -/
def ValueType.kind? {n : Nat} : ValueType n → Option DataKind
  | scalar s => s.kind?
  | optional inner => inner.kind?
  | list inner =>
    if inner = .scalar .uint8 then some .blob else inner.kind?.bind DataKind.array?
  | nested _ => some .object
  | foreign _ => none

end CollectionSchema
