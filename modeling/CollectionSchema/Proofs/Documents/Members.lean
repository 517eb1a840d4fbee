import CollectionSchema.Json.Enumeration

/-!
Values that are kept by their documents.

`Json.Keeps write read a` says that `a` is read from what is written for it, and that this
is `Trim`: nothing in it is `null`, and no list that is left out when empty stands there empty.

A record is read member by member. `required_cons_self`, `optional_cons_self`,
`withDefault_cons_self` and `withDefault_cons_unlessEmpty` read the first member of a record
that was written; by members of other keys the readers pass.
-/

namespace CollectionSchema

/-- The values of an enumeration are told apart by their words. -/
class LawfulEnumeration (α : Type) [Enumeration α] : Prop where
  ofWord?_word (a : α) : Enumeration.ofWord? (Enumeration.word a) = some a

namespace Json

/-! ### The members of a record -/

/-- The members of a record: the fields that are set. -/
def setMembers (fields : List (String × Option Json)) : Members :=
  fields.filterMap fun (key, value) => value.map fun j => (key, j)

@[simp]
theorem fields?_record (names : List String) (fields : List (String × Option Json)) :
    (record fields).fields? names = some (setMembers fields) := rfl

@[simp]
theorem tagged?_record (parameters : String → List String)
    (fields : List (String × Option Json)) :
    (record fields).tagged? parameters = some (setMembers fields) := rfl

theorem mem_setMembers_iff {fields : List (String × Option Json)} {entry : String × Json} :
    entry ∈ setMembers fields ↔ (entry.1, some entry.2) ∈ fields := by
  rw [setMembers, List.mem_filterMap]
  constructor
  · rintro ⟨⟨key, value⟩, mem, set⟩
    obtain ⟨j, rfl, same⟩ := Option.map_eq_some_iff.mp set
    cases same
    exact mem
  · intro mem
    exact ⟨_, mem, rfl⟩

/-! ### Documents without padding -/

/-- The keys of the lists that are left out when they are empty. -/
def omittedLists : List String :=
  ["nestedProperties", "sourceProperties", "imageFields", "textFields", "additions", "removals"]

/-- Nothing in a document is `null`, and no list that is left out when empty is empty. -/
inductive Trim : Json → Prop where
  | bool (b : Bool) : Trim (.bool b)
  | number (n : Number) : Trim (.number n)
  | string (s : String) : Trim (.string s)
  | array {items : List Json} : (∀ j ∈ items, Trim j) → Trim (.array items)
  | object {members : List (String × Json)} :
      (∀ entry ∈ members, Trim entry.2) →
        (∀ entry ∈ members, entry.1 ∈ omittedLists → entry.2 ≠ .array []) → Trim (.object members)

theorem Trim.ne_null {j : Json} (trim : j.Trim) : j ≠ .null := by
  rintro rfl
  cases trim

attribute [simp] Trim.bool Trim.number Trim.string

@[simp]
theorem trim_nat (n : Nat) : (nat n).Trim := .number _

@[simp]
theorem trim_int (n : Int) : (int n).Trim := .number _

theorem trim_singleton {key : String} {j : Json} (trim : j.Trim) (plain : key ∉ omittedLists) :
    (object [(key, j)]).Trim := by
  refine .object ?_ ?_
  · intro entry mem
    rw [List.mem_singleton.mp mem]
    exact trim
  · intro entry mem listed
    rw [List.mem_singleton.mp mem] at listed
    exact absurd listed plain

@[simp]
theorem trim_list {α : Type} {write : α → Json} {items : List α}
    (trims : ∀ a ∈ items, (write a).Trim) : (list write items).Trim := by
  refine .array ?_
  intro j mem
  obtain ⟨a, memItems, rfl⟩ := List.mem_map.mp mem
  exact trims a memItems

/-- What may be written for a field of a record: nothing, or a document without padding that
is no empty list where empty lists are left out. -/
def TrimField (field : String × Option Json) : Prop :=
  ∀ j ∈ field.2, j.Trim ∧ (field.1 ∈ omittedLists → j ≠ .array [])

theorem trim_record_iff {fields : List (String × Option Json)} :
    (record fields).Trim ↔ ∀ field ∈ fields, TrimField field := by
  change (object (setMembers fields)).Trim ↔ _
  constructor
  · rintro trim ⟨key, _⟩ mem j ⟨⟩
    have written : (key, j) ∈ setMembers fields := mem_setMembers_iff.mpr mem
    cases trim with
    | object trims lists => exact ⟨trims _ written, lists _ written⟩
  · intro each
    have written : ∀ entry ∈ setMembers fields,
        entry.2.Trim ∧ (entry.1 ∈ omittedLists → entry.2 ≠ .array []) := by
      intro entry mem
      exact each _ (mem_setMembers_iff.mp mem) entry.2 rfl
    refine .object ?_ ?_
    · intro entry mem
      exact (written entry mem).1
    · intro entry mem
      exact (written entry mem).2

section TrimFields

variable {α : Type} {key : String} {write : α → Json}

@[simp]
theorem trimField_some {j : Json} :
    TrimField (key, some j) ↔ j.Trim ∧ (key ∈ omittedLists → j ≠ .array []) := by
  constructor
  · intro field
    exact field j rfl
  · rintro trim _ ⟨⟩
    exact trim

@[simp]
theorem trimField_map {value : Option α} :
    TrimField (key, value.map write) ↔
      ∀ a ∈ value, (write a).Trim ∧ (key ∈ omittedLists → write a ≠ .array []) := by
  cases value with
  | none => exact ⟨fun _ _ => nofun, fun _ _ => nofun⟩
  | some a => simp

/-- A list that is left out when empty is never written empty. -/
@[simp]
theorem trimField_unlessEmpty {items : List α} (trims : ∀ a ∈ items, (write a).Trim) :
    TrimField (key, unlessEmpty write items) := by
  cases items with
  | nil => exact fun _ => nofun
  | cons a rest => exact trimField_some.mpr ⟨trim_list trims, fun _ => nofun⟩

end TrimFields

/-! ### Values and their documents -/

/-- The document of `a` keeps it: `a` is read from it, and it has no padding. -/
structure Keeps {α : Type} (write : α → Json) (read : Json → Option α) (a : α) : Prop where
  read_write : read (write a) = some a
  trim : (write a).Trim

section Values

@[simp]
theorem string?_string (s : String) : (string s).string? = some s := rfl

@[simp]
theorem bool?_bool (b : Bool) : (bool b).bool? = some b := rfl

@[simp]
theorem keeps_string (s : String) : Keeps .string string? s :=
  ⟨rfl, .string s⟩

@[simp]
theorem keeps_bool (b : Bool) : Keeps .bool bool? b :=
  ⟨rfl, .bool b⟩

theorem natBelow?_nat {n bound : Nat} (small : n < bound) : (nat n).natBelow? bound = some n := by
  simp [nat, int, natBelow?, small]

@[simp]
theorem keeps_uint8 (n : UInt8) : Keeps (fun n => .nat n.toNat) uint8? n := by
  refine ⟨?_, .number _⟩
  rw [uint8?, natBelow?_nat n.toNat_lt, Option.map_some, UInt8.ofNat_toNat]

@[simp]
theorem keeps_uint32 (n : UInt32) : Keeps (fun n => .nat n.toNat) uint32? n := by
  refine ⟨?_, .number _⟩
  rw [uint32?, natBelow?_nat n.toNat_lt, Option.map_some, UInt32.ofNat_toNat]

@[simp]
theorem keeps_uint64 (n : UInt64) : Keeps (fun n => .nat n.toNat) uint64? n := by
  refine ⟨?_, .number _⟩
  rw [uint64?, natBelow?_nat n.toNat_lt, Option.map_some, UInt64.ofNat_toNat]

@[simp]
theorem keeps_int32 (n : Int32) : Keeps (fun n => .int n.toInt) int32? n := by
  refine ⟨?_, .number _⟩
  have range : -0x80000000 ≤ n.toInt ∧ n.toInt ≤ 0x7fffffff := by
    have low := n.le_toInt
    have high := n.toInt_lt
    omega
  simp [int, int32?, intIn?, range]

/-- Items that are kept make a list that is kept. -/
theorem keeps_list {α : Type} {write : α → Json} {read : Json → Option α} {items : List α}
    (each : ∀ a ∈ items, Keeps write read a) : Keeps (list write) (list? read) items := by
  constructor
  · rw [list, list?]
    induction items with
    | nil => rfl
    | cons a rest ih =>
        have head := (each a (List.mem_cons_self ..)).read_write
        have tail := ih fun a mem => each a (List.mem_cons_of_mem _ mem)
        rw [List.map_cons, List.mapM_cons, head, tail]
        rfl
  · exact trim_list fun a mem => (each a mem).trim

@[simp]
theorem list?_list {α : Type} {write : α → Json} {read : Json → Option α} {items : List α}
    (each : ∀ a ∈ items, Keeps write read a) : list? read (list write items) = some items :=
  (keeps_list each).read_write

end Values

/-! ### Words -/

@[simp]
theorem trim_word {α : Type} [Enumeration α] (a : α) : (Enumeration.toJson a).Trim := .string _

@[simp]
theorem keeps_word {α : Type} [Enumeration α] [LawfulEnumeration α] (a : α) :
    Keeps Enumeration.toJson Enumeration.ofJson? a :=
  ⟨LawfulEnumeration.ofWord?_word a, .string _⟩

/-! ### Looking a field up -/

section Fields

variable {α : Type} {k key : String} {v : Option Json} {j : Json}
  {rest : List (String × Option Json)} {read : Json → Option α} {write : α → Json}

theorem get?_setMembers_cons :
    Table.get? (setMembers ((k, v) :: rest)) key =
      if key = k then v.or (Table.get? (setMembers rest) key)
      else Table.get? (setMembers rest) key := by
  cases v with
  | none => simp [setMembers]
  | some j => simp [setMembers, Table.get?_cons]

theorem get?_setMembers_of_notMem (absent : key ∉ rest.map (·.1)) :
    Table.get? (setMembers rest) key = none := by
  induction rest with
  | nil => rfl
  | cons field rest ih =>
      obtain ⟨k, v⟩ := field
      rw [List.map_cons, List.mem_cons, not_or] at absent
      rw [get?_setMembers_cons, if_neg absent.1, ih absent.2]

theorem get?_setMembers_cons_self (absent : key ∉ rest.map (·.1)) :
    Table.get? (setMembers ((key, v) :: rest)) key = v := by
  rw [get?_setMembers_cons, if_pos rfl, get?_setMembers_of_notMem absent, Option.or_none]

theorem get?_setMembers_cons_ne (other : key ≠ k) :
    Table.get? (setMembers ((k, v) :: rest)) key = Table.get? (setMembers rest) key := by
  rw [get?_setMembers_cons, if_neg other]

/-! ### Reading a record -/

@[simp]
theorem required_cons_self :
    (setMembers ((key, some j) :: rest)).required key read = read j := by
  rw [Members.required, get?_setMembers_cons, if_pos rfl]
  rfl

@[simp]
theorem required_cons_ne (other : key ≠ k) :
    (setMembers ((k, v) :: rest)).required key read = (setMembers rest).required key read := by
  rw [Members.required, Members.required, get?_setMembers_cons_ne other]

@[simp]
theorem optional_cons_none (absent : key ∉ rest.map (·.1)) :
    (setMembers ((key, none) :: rest)).optional key read = some none := by
  rw [Members.optional, get?_setMembers_cons_self absent]

@[simp]
theorem optional_cons_some (set : j ≠ .null) :
    (setMembers ((key, some j) :: rest)).optional key read = (read j).map some := by
  rw [Members.optional, get?_setMembers_cons, if_pos rfl, Option.some_or]
  split
  next unset => cases unset
  next isNull => exact absurd (Option.some.inj isNull) set
  next written => rw [← Option.some.inj written]

@[simp]
theorem optional_cons_self {value : Option α} (absent : key ∉ rest.map (·.1))
    (keeps : ∀ a ∈ value, Keeps write read a) :
    (setMembers ((key, value.map write) :: rest)).optional key read = some value := by
  cases value with
  | none => exact optional_cons_none absent
  | some a =>
      obtain ⟨back, trim⟩ := keeps a rfl
      rw [Option.map_some, optional_cons_some trim.ne_null, back]
      rfl

@[simp]
theorem optional_cons_ne (other : key ≠ k) :
    (setMembers ((k, v) :: rest)).optional key read = (setMembers rest).optional key read := by
  rw [Members.optional, Members.optional, get?_setMembers_cons_ne other]

@[simp]
theorem withDefault_cons_self {default : α} :
    (setMembers ((key, some j) :: rest)).withDefault key read default = read j := by
  rw [Members.withDefault, get?_setMembers_cons, if_pos rfl]
  rfl

/-- A list that was left out is empty, and that is its default. -/
@[simp]
theorem withDefault_cons_unlessEmpty {items : List α} (absent : key ∉ rest.map (·.1))
    (keeps : ∀ a ∈ items, Keeps write read a) :
    (setMembers ((key, unlessEmpty write items) :: rest)).withDefault key (list? read) [] =
      some items := by
  rw [Members.withDefault, get?_setMembers_cons_self absent]
  cases items with
  | nil => rfl
  | cons a items => exact (keeps_list keeps).read_write

@[simp]
theorem withDefault_cons_ne {default : α} (other : key ≠ k) :
    (setMembers ((k, v) :: rest)).withDefault key read default =
      (setMembers rest).withDefault key read default := by
  rw [Members.withDefault, Members.withDefault, get?_setMembers_cons_ne other]

end Fields

end Json

end CollectionSchema
