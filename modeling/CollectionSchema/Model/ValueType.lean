import CollectionSchema.Number.Single

/-!
Value types: the types of a model's fields, as far as a schema is concerned with them.

A nested type is referred to by its place in a catalog of `n` described types, so that types may
contain each other and themselves.
-/

namespace CollectionSchema

/-- A type without parts. -/
inductive Scalar where
  | string
  | char
  | int8
  | int16
  | int32
  | int64
  | int128
  | uint8
  | uint16
  | uint32
  | uint64
  | uint128
  | float32
  | float64
  | bool
  | dateTime
  | uuid
  | geoCoordinate
  | phoneNumber
deriving DecidableEq, Repr

namespace Scalar

/-- The scalars in order. -/
def all : List Scalar :=
  [string, char, int8, int16, int32, int64, int128, uint8, uint16, uint32, uint64, uint128,
    float32, float64, bool, dateTime, uuid, geoCoordinate, phoneNumber]

/-- The text shown for a scalar. -/
def text : Scalar → String
  | string => "String"
  | char => "char"
  | int8 => "i8"
  | int16 => "i16"
  | int32 => "i32"
  | int64 => "i64"
  | int128 => "i128"
  | uint8 => "u8"
  | uint16 => "u16"
  | uint32 => "u32"
  | uint64 => "u64"
  | uint128 => "u128"
  | float32 => "f32"
  | float64 => "f64"
  | bool => "bool"
  | dateTime => "DateTime"
  | uuid => "Uuid"
  | geoCoordinate => "GeoCoordinate"
  | phoneNumber => "PhoneNumber"

/-- The scalar that a text is shown for. -/
def ofText? (s : String) : Option Scalar :=
  all.find? (·.text == s)

end Scalar

/-- The type of a field. A foreign type is known by name only and fits no kind of data. -/
inductive ValueType (n : Nat) where
  | scalar (scalar : Scalar)
  | optional (inner : ValueType n)
  | list (inner : ValueType n)
  | nested (id : Fin n)
  | foreign (name : String)
deriving DecidableEq, Repr

/-- The nested type of a value type, seen through options and lists. -/
def ValueType.nested? {n : Nat} : ValueType n → Option (Fin n)
  | scalar _ => none
  | optional inner => inner.nested?
  | list inner => inner.nested?
  | nested id => some id
  | foreign _ => none

/-- A place on the earth, as the values of a property hold it. -/
structure GeoCoordinate where
  latitude : Single
  longitude : Single
deriving DecidableEq, Repr

/-- A phone number, as the values of a property hold it. -/
structure PhoneNumber where
  input : String
  defaultCountry : Option String := none
deriving DecidableEq, Repr

end CollectionSchema
