import CollectionSchema.Number.Single
import CollectionSchema.Table

/-!
JSON values, and how values of the library are read from them and written to them.

An object is a list of members; a key is looked up at its first member, and the parser leaves no
key twice. Readers are functions `Json → Option α`: a document either is of the wanted form or it
is not, and no reader says why. `Members.required`, `Members.optional` and `Members.withDefault`
are the three ways a member may be asked for, and `Json.record` writes members that may be unset.

Records are written as objects and read from lists too, which hold the fields in order:
`Json.fields?` gives the members of both, and `Json.tagged?` where a tag tells what fields there
are.
-/

namespace CollectionSchema

/-- A JSON number: an integer of up to 64 bits, or a decimal. -/
inductive Number where
  | integer (value : Int)
  | decimal (value : Decimal)
deriving DecidableEq, Repr

/-- A JSON value. -/
inductive Json where
  | null
  | bool (value : Bool)
  | number (value : Number)
  | string (value : String)
  | array (items : List Json)
  | object (members : List (String × Json))
deriving Repr, Inhabited

/-- The members of an object, in order. -/
abbrev Members := Table Json

namespace Json

/-! ### Equality -/

mutual

/-- Decides whether two values are equal. -/
def decEq : (a b : Json) → Decidable (a = b)
  | .null, .null => isTrue rfl
  | .bool x, .bool y => decidable_of_iff (x = y) (by simp)
  | .number x, .number y => decidable_of_iff (x = y) (by simp)
  | .string x, .string y => decidable_of_iff (x = y) (by simp)
  | .array xs, .array ys =>
    match decEqItems xs ys with
    | isTrue same => isTrue (by rw [same])
    | isFalse differ => isFalse (by simp [differ])
  | .object xs, .object ys =>
    match decEqMembers xs ys with
    | isTrue same => isTrue (by rw [same])
    | isFalse differ => isFalse (by simp [differ])
  | .null, .bool _ | .null, .number _ | .null, .string _ | .null, .array _ | .null, .object _
  | .bool _, .null | .bool _, .number _ | .bool _, .string _ | .bool _, .array _
  | .bool _, .object _
  | .number _, .null | .number _, .bool _ | .number _, .string _ | .number _, .array _
  | .number _, .object _
  | .string _, .null | .string _, .bool _ | .string _, .number _ | .string _, .array _
  | .string _, .object _
  | .array _, .null | .array _, .bool _ | .array _, .number _ | .array _, .string _
  | .array _, .object _
  | .object _, .null | .object _, .bool _ | .object _, .number _ | .object _, .string _
  | .object _, .array _ => isFalse Json.noConfusion

/-- Decides whether two lists of values are equal. -/
def decEqItems : (xs ys : List Json) → Decidable (xs = ys)
  | [], [] => isTrue rfl
  | [], _ :: _ => isFalse (by simp)
  | _ :: _, [] => isFalse (by simp)
  | x :: xs, y :: ys =>
    match decEq x y, decEqItems xs ys with
    | isTrue head, isTrue tail => isTrue (by rw [head, tail])
    | isFalse head, _ => isFalse fun h => head (List.cons.inj h).1
    | _, isFalse tail => isFalse fun h => tail (List.cons.inj h).2

/-- Decides whether two lists of members are equal. -/
def decEqMembers : (xs ys : List (String × Json)) → Decidable (xs = ys)
  | [], [] => isTrue rfl
  | [], _ :: _ => isFalse (by simp)
  | _ :: _, [] => isFalse (by simp)
  | (key₁, x) :: xs, (key₂, y) :: ys =>
    match decEq x y, decEqMembers xs ys with
    | isTrue head, isTrue tail => decidable_of_iff (key₁ = key₂) (by simp [head, tail])
    | isFalse head, _ => isFalse (by simp [head])
    | _, isFalse tail => isFalse (by simp [tail])

end

instance : DecidableEq Json := decEq

/-! ### Writing -/

/-- An integer. -/
def int (n : Int) : Json :=
  .number (.integer n)

/-- A natural number. -/
def nat (n : Nat) : Json :=
  .int n

/-- A list, item by item. -/
def list {α : Type} (write : α → Json) (items : List α) : Json :=
  .array (items.map write)

/-- An object of the members that are set. -/
def record (members : List (String × Option Json)) : Json :=
  .object (members.filterMap fun (key, value) => value.map fun j => (key, j))

/-- A value or `null`. -/
def orNull {α : Type} (write : α → Json) : Option α → Json
  | none => .null
  | some a => write a

/-- A list member that is left out when the list is empty. -/
def unlessEmpty {α : Type} (write : α → Json) (items : List α) : Option Json :=
  if items.isEmpty then none else some (list write items)

/-! ### Reading -/

/-- The members of an object. -/
def members? : Json → Option Members
  | .object members => some members
  | _ => none

/-- A text. -/
def string? : Json → Option String
  | .string s => some s
  | _ => none

/-- A truth value. -/
def bool? : Json → Option Bool
  | .bool b => some b
  | _ => none

/-- An integer between two bounds, both allowed. -/
def intIn? (low high : Int) : Json → Option Int
  | .number (.integer n) => if low ≤ n ∧ n ≤ high then some n else none
  | _ => none

/-- A natural number below a bound. -/
def natBelow? (bound : Nat) : Json → Option Nat
  | .number (.integer n) => if 0 ≤ n ∧ n.toNat < bound then some n.toNat else none
  | _ => none

/-- An unsigned 8-bit integer. -/
def uint8? (j : Json) : Option UInt8 :=
  (j.natBelow? UInt8.size).map UInt8.ofNat

/-- An unsigned 32-bit integer. -/
def uint32? (j : Json) : Option UInt32 :=
  (j.natBelow? UInt32.size).map UInt32.ofNat

/-- An unsigned 64-bit integer. -/
def uint64? (j : Json) : Option UInt64 :=
  (j.natBelow? UInt64.size).map UInt64.ofNat

/-- A signed 32-bit integer. -/
def int32? (j : Json) : Option Int32 :=
  (j.intIn? (-0x80000000) 0x7fffffff).map Int32.ofInt

/-- A signed 64-bit integer. -/
def int64? (j : Json) : Option Int :=
  j.intIn? (-0x8000000000000000) 0x7fffffffffffffff

/-- A natural number that fits in 64 bits. -/
def nat64? (j : Json) : Option Nat :=
  j.natBelow? UInt64.size

/-- A list, item by item. -/
def list? {α : Type} (read : Json → Option α) : Json → Option (List α)
  | .array items => items.mapM read
  | _ => none

/-- A word: a text, or an object with the word as its only key and `null` under it. -/
def word? : Json → Option String
  | .string s => some s
  | .object [(s, .null)] => some s
  | _ => none

/-- Items under the names of fields. The last fields may be left out, but there are no items
beyond them. -/
def inOrder? (names : List String) (items : List Json) : Option Members :=
  if items.length ≤ names.length then some (names.zip items) else none

/-- The members of a record: those of an object, or the items of a list under the names of the
fields. -/
def fields? (names : List String) : Json → Option Members
  | .object members => some members
  | .array items => inOrder? names items
  | _ => none

/-- The members of a record whose tag, the `type`, tells the other fields. In a list the tag
comes first. -/
def tagged? (parameters : String → List String) : Json → Option Members
  | .object members => some members
  | .array (.string tag :: items) => inOrder? ("type" :: parameters tag) (.string tag :: items)
  | _ => none

end Json

namespace Members

/-- A member that must be there. -/
def required {α : Type} (members : Members) (key : String) (read : Json → Option α) : Option α :=
  (Table.get? members key).bind read

/-- A member that is unset when it is missing or `null`. -/
def optional {α : Type} (members : Members) (key : String) (read : Json → Option α) :
    Option (Option α) :=
  match Table.get? members key with
  | none => some none
  | some .null => some none
  | some value => (read value).map some

/-- A member with a value of its own when it is missing. -/
def withDefault {α : Type} (members : Members) (key : String) (read : Json → Option α)
    (default : α) : Option α :=
  match Table.get? members key with
  | none => some default
  | some value => read value

end Members

namespace Single

/-- A finite number is its shortest decimal; any other is `null`. -/
def toJson (x : Single) : Json :=
  Json.orNull (fun d => .number (.decimal d)) x.toDecimal?

/-- Any JSON number is read. -/
def ofJson? : Json → Option Single
  | .number (.integer n) => some (ofInt n)
  | .number (.decimal d) => some (ofDecimal d)
  | _ => none

end Single

end CollectionSchema
