import CollectionSchema.Collection.Json
import CollectionSchema.Proofs.Documents.Members

/-!
A schema is kept by its document.

Every part of a schema is read from what is written for it: properties to any depth, the
variants of vectorizers, indexes and quantizers, and the sections of settings. Of the ranking
parameters, which are single-precision numbers, it is asked that they are finite and that
their decimals are read as them: `Single.ReadsBack`.

* `Property.keeps`, `Vectorizer.keeps`, `VectorIndex.keeps`, …: the parts.
* `Collection.ofJson?_toJson`: the whole.
-/

namespace CollectionSchema

open Json

/-! ### Words -/

instance : LawfulEnumeration DataKind := ⟨fun kind => by cases kind <;> rfl⟩

instance : LawfulEnumeration Tokenization := ⟨fun tokenization => by cases tokenization <;> rfl⟩

instance : LawfulEnumeration Distance := ⟨fun distance => by cases distance <;> rfl⟩

instance : LawfulEnumeration DeletionStrategy := ⟨fun strategy => by cases strategy <;> rfl⟩

/-! ### Properties and references -/

namespace Property

/-- What holds of a property when it holds of its nested properties, holds of all. -/
theorem nested_induction {motive : Property → Prop}
    (step : ∀ p, (∀ q ∈ p.nested, motive q) → motive p) (p : Property) : motive p := by
  refine step p ?_
  intro q mem
  have smaller : sizeOf q < sizeOf p := by
    have inner := List.sizeOf_lt_of_mem mem
    cases p
    simp only [Property.mk.sizeOf_spec] at inner ⊢
    omega
  exact nested_induction step q
termination_by p

theorem listOfJson?_eq (j : Json) : listOfJson? j = list? ofJson? j := by
  cases j with
  | array items => rw [listOfJson?, list?, ofItems?_eq_mapM]
  | _ => rfl

/-- The nested properties of a document are a list member like any other. -/
theorem nestedOfMembers?_eq (members : Members) :
    nestedOfMembers? members = members.withDefault "nestedProperties" (list? ofJson?) [] := by
  induction members with
  | nil => rfl
  | cons entry rest ih =>
      obtain ⟨key, value⟩ := entry
      rw [nestedOfMembers?, ih, Members.withDefault, Members.withDefault, Table.get?_cons,
        listOfJson?_eq]
      by_cases here : key = "nestedProperties"
      · rw [if_pos here, if_pos here.symm]
      · rw [if_neg here, if_neg (Ne.symm here)]

theorem toJson_eq (p : Property) :
    p.toJson = .record [
      ("name", some (.string p.name)),
      ("dataType", some (.list Enumeration.toJson p.kinds)),
      ("description", p.description.map .string),
      ("indexFilterable", p.filterable.map .bool),
      ("indexSearchable", p.searchable.map .bool),
      ("indexRangeFilters", p.rangeFilters.map .bool),
      ("tokenization", p.tokenization.map Enumeration.toJson),
      ("nestedProperties", Json.unlessEmpty toJson p.nested)] := by
  cases p
  rw [toJson, listToJson_eq_map]
  rfl

theorem eta (p : Property) :
    ⟨p.name, p.kinds, p.description, p.filterable, p.searchable, p.rangeFilters, p.tokenization,
      p.nested⟩ = p := by
  cases p
  rfl

/-- Reading a property is reading its members, the nested properties among them. -/
theorem ofJson?_eq (j : Json) :
    ofJson? j = j.fields? fieldNames >>= fun ms => do
      let name ← ms.required "name" string?
      let kinds ← ms.required "dataType" (list? Enumeration.ofJson?)
      let description ← ms.optional "description" string?
      let filterable ← ms.optional "indexFilterable" bool?
      let searchable ← ms.optional "indexSearchable" bool?
      let rangeFilters ← ms.optional "indexRangeFilters" bool?
      let tokenization ← ms.optional "tokenization" Enumeration.ofJson?
      let nested ← ms.withDefault "nestedProperties" (list? ofJson?) []
      return ⟨name, kinds, description, filterable, searchable, rangeFilters, tokenization,
        nested⟩ := by
  cases j with
  | object members =>
      rw [ofJson?, nestedOfMembers?_eq]
      rfl
  | array items =>
      rw [ofJson?, fields?, inOrder?, nestedInOrder?_eq]
      split
      · rw [nestedOfMembers?_eq]
        rfl
      · rfl
  | _ => rfl

theorem keeps (p : Property) : Keeps toJson ofJson? p := by
  induction p using nested_induction with
  | step p ih =>
      have nested : (setMembers [("nestedProperties", unlessEmpty toJson p.nested)]).withDefault
          "nestedProperties" (list? ofJson?) [] = some p.nested :=
        withDefault_cons_unlessEmpty (by simp) ih
      have trimNested : TrimField ("nestedProperties", unlessEmpty toJson p.nested) :=
        trimField_unlessEmpty fun q mem => (ih q mem).trim
      constructor
      · simp [toJson_eq, ofJson?_eq, nested, eta]
      · simp [toJson_eq, trim_record_iff, omittedLists, trimNested]

end Property

namespace Reference

theorem keeps (r : Reference) : Keeps toJson ofJson? r := by
  constructor
  · simp [toJson, ofJson?]
  · simp [toJson, trim_record_iff, omittedLists]

end Reference

/-! ### Vectors -/

namespace Quantizer

theorem keeps (q : Quantizer) : Keeps toJson ofJson? q := by
  constructor
  · cases q <;> simp [toJson, ofJson?]
  · cases q <;> simp [toJson, trim_record_iff, omittedLists]

end Quantizer

namespace HnswIndex

theorem keeps (i : HnswIndex) : Keeps toJson ofJson? i := by
  constructor
  · simp [toJson, ofJson?, Quantizer.keeps]
  · simp [toJson, trim_record_iff, omittedLists, (Quantizer.keeps _).trim]

end HnswIndex

namespace FlatIndex

theorem keeps (i : FlatIndex) : Keeps toJson ofJson? i := by
  constructor
  · simp [toJson, ofJson?, Quantizer.keeps]
  · simp [toJson, trim_record_iff, omittedLists, (Quantizer.keeps _).trim]

end FlatIndex

namespace DynamicIndex

theorem keeps (i : DynamicIndex) : Keeps toJson ofJson? i := by
  constructor
  · simp [toJson, ofJson?, (HnswIndex.keeps _).read_write, (FlatIndex.keeps _).read_write]
  · simp [toJson, trim_record_iff, omittedLists, (HnswIndex.keeps _).trim,
      (FlatIndex.keeps _).trim]

end DynamicIndex

namespace VectorIndex

theorem keeps (i : VectorIndex) : Keeps toJson ofJson? i := by
  cases i with
  | hnsw index =>
      have settings := HnswIndex.keeps index
      constructor
      · rw [toJson, ofJson?, settings.read_write, Option.map_some]
      · exact trim_singleton settings.trim (by decide)
  | flat index =>
      have settings := FlatIndex.keeps index
      constructor
      · rw [toJson, ofJson?, settings.read_write, Option.map_some]
      · exact trim_singleton settings.trim (by decide)
  | dynamic index =>
      have settings := DynamicIndex.keeps index
      constructor
      · rw [toJson, ofJson?, settings.read_write, Option.map_some]
      · exact trim_singleton settings.trim (by decide)

end VectorIndex

namespace Vectorizer

theorem keeps (v : Vectorizer) : Keeps toJson ofJson? v := by
  constructor
  · cases v <;> simp [toJson, ofJson?, moduleName, texts?]
  · cases v <;> simp [toJson, trim_record_iff, omittedLists]

end Vectorizer

namespace NamedVector

theorem keeps (v : NamedVector) : Keeps toJson ofJson? v := by
  constructor
  · simp [toJson, ofJson?, (Vectorizer.keeps _).read_write, (VectorIndex.keeps _).read_write]
  · simp [toJson, trim_record_iff, omittedLists, (Vectorizer.keeps _).trim,
      (VectorIndex.keeps _).trim]

end NamedVector

/-! ### Settings -/

namespace Stopwords

theorem keeps (s : Stopwords) : Keeps toJson ofJson? s := by
  constructor
  · simp [toJson, ofJson?, texts?]
  · simp [toJson, trim_record_iff, omittedLists]

end Stopwords

namespace Replication

theorem keeps (r : Replication) : Keeps toJson ofJson? r := by
  constructor
  · simp [toJson, ofJson?]
  · simp [toJson, trim_record_iff, omittedLists]

end Replication

namespace Sharding

theorem keeps (s : Sharding) : Keeps toJson ofJson? s := by
  constructor
  · simp [toJson, ofJson?]
  · simp [toJson, trim_record_iff, omittedLists]

end Sharding

namespace MultiTenancy

theorem keeps (m : MultiTenancy) : Keeps toJson ofJson? m := by
  constructor
  · simp [toJson, ofJson?]
  · simp [toJson, trim_record_iff, omittedLists]

end MultiTenancy

/-! ### Floating-point settings -/

/-- A finite number whose decimal is read as it. -/
def Single.ReadsBack (x : Single) : Prop :=
  ∃ d, x.toDecimal? = some d ∧ Single.ofDecimal d = x

instance (x : Single) : Decidable x.ReadsBack :=
  decidable_of_iff (x.toDecimal?.map Single.ofDecimal = some x) Option.map_eq_some_iff

theorem Single.ofJson?_toJson_iff {x : Single} : ofJson? x.toJson = some x ↔ x.ReadsBack := by
  rw [toJson, ReadsBack]
  cases x.toDecimal? with
  | none => simp [orNull, ofJson?]
  | some d => simp [orNull, ofJson?]

theorem Single.ReadsBack.trim {x : Single} (back : x.ReadsBack) : x.toJson.Trim := by
  obtain ⟨d, finite, -⟩ := back
  rw [Single.toJson, finite]
  exact .number _

namespace Bm25

/-- The ranking parameters are finite and read back. -/
def ReadsBack (p : Bm25) : Prop :=
  p.b.ReadsBack ∧ p.k1.ReadsBack

theorem ofJson?_toJson_iff {p : Bm25} : ofJson? p.toJson = some p ↔ p.ReadsBack := by
  obtain ⟨b, k1⟩ := p
  rw [ReadsBack, ← Single.ofJson?_toJson_iff, ← Single.ofJson?_toJson_iff]
  simp [toJson, ofJson?, Option.bind_eq_some_iff]

theorem ReadsBack.trim {p : Bm25} (back : p.ReadsBack) : p.toJson.Trim := by
  simp [toJson, trim_record_iff, omittedLists, back.1.trim, back.2.trim]

end Bm25

namespace InvertedIndex

/-- The ranking parameters, if there are any, are finite and read back. -/
def FloatsReadBack (i : InvertedIndex) : Prop :=
  ∀ p ∈ i.bm25, p.ReadsBack

theorem ofJson?_toJson_iff {i : InvertedIndex} : ofJson? i.toJson = some i ↔ i.FloatsReadBack := by
  obtain ⟨bm25, interval, nullState, propertyLength, timestamps, stopwords⟩ := i
  cases bm25 with
  | none => simp [toJson, ofJson?, FloatsReadBack, Stopwords.keeps]
  | some p =>
      have set : p.toJson ≠ .null := nofun
      simp [toJson, ofJson?, FloatsReadBack, Stopwords.keeps, set, Option.bind_eq_some_iff,
        ← Bm25.ofJson?_toJson_iff]

theorem FloatsReadBack.trim {i : InvertedIndex} (floats : i.FloatsReadBack) : i.toJson.Trim := by
  have ranking : ∀ p, i.bm25 = some p → p.toJson.Trim := fun p mem => (floats p mem).trim
  simpa [toJson, trim_record_iff, omittedLists, (Stopwords.keeps _).trim] using ranking

end InvertedIndex

/-! ### The whole schema -/

namespace Collection

/-- The ranking parameters of the keyword index, if there are any, are finite and read back. -/
def FloatsReadBack (c : Collection) : Prop :=
  ∀ i ∈ c.invertedIndex, i.FloatsReadBack

/-- The keys that every document of a collection has. -/
def writtenKeys : List String :=
  ["name", "properties", "references", "vectors", "replicationConfig", "multiTenancyConfig"]

theorem ofJson?_toJson_iff {c : Collection} : ofJson? c.toJson = some c ↔ c.FloatsReadBack := by
  obtain ⟨name, description, properties, references, vectors, invertedIndex, replication, sharding,
    multiTenancy⟩ := c
  have replicationBack := (Replication.keeps replication).read_write
  have tenantsBack := (MultiTenancy.keeps multiTenancy).read_write
  cases invertedIndex with
  | none =>
      simp [toJson, ofJson?, FloatsReadBack, Property.keeps, Reference.keeps, NamedVector.keeps,
        Sharding.keeps, replicationBack, tenantsBack]
  | some i =>
      have set : i.toJson ≠ .null := nofun
      simp [toJson, ofJson?, FloatsReadBack, Property.keeps, Reference.keeps, NamedVector.keeps,
        Sharding.keeps, replicationBack, tenantsBack, set, Option.bind_eq_some_iff,
        ← InvertedIndex.ofJson?_toJson_iff]

theorem FloatsReadBack.trim {c : Collection} (floats : c.FloatsReadBack) : c.toJson.Trim := by
  have index : ∀ i, c.invertedIndex = some i → i.toJson.Trim := fun i mem => (floats i mem).trim
  simpa [toJson, trim_record_iff, omittedLists, (Property.keeps _).trim, (Reference.keeps _).trim,
    (NamedVector.keeps _).trim, (Sharding.keeps _).trim, (Replication.keeps _).trim,
    (MultiTenancy.keeps _).trim] using index

/-- The lists of members and the sections on replication and tenants are always written. -/
theorem exists_members (c : Collection) :
    ∃ members, c.toJson = .object members ∧
      ∀ key ∈ writtenKeys, (Table.get? members key).isSome := by
  refine ⟨setMembers _, rfl, ?_⟩
  simp [writtenKeys, get?_setMembers_cons]

/-- **A document loses nothing of its schema.** The schema is read from it as it was, with
properties to any depth, exactly if the ranking parameters of the keyword index are finite and
read back. What is unset and the lists that are left out when empty have no member in the
document, at any depth, while the lists of members and the sections on replication and tenants
always have one. -/
theorem ofJson?_toJson (c : Collection) :
    (ofJson? c.toJson = some c ↔ c.FloatsReadBack) ∧
      (c.FloatsReadBack → c.toJson.Trim) ∧
      ∃ members, c.toJson = .object members ∧
        ∀ key ∈ writtenKeys, (Table.get? members key).isSome := by
  refine ⟨ofJson?_toJson_iff, ?_, exists_members c⟩
  intro floats
  exact floats.trim

end Collection

/-! ### A book and its document -/

/-- Chapters of sections, a vector in an index of two stages, and numbers at their bounds. -/
def book (ranking : Bm25) : Collection where
  name := "Book"
  properties := [
    { name := "title", kinds := [.text], tokenization := some .kagomeJa },
    { name := "chapters", kinds := [.objectArray],
      nested := [
        { name := "sections", kinds := [.objectArray], nested := [.ofKind "pages" .int] }] }]
  references := [⟨"author", "Person", none⟩]
  vectors := [
    { name := "cover"
      vectorizer := .clip none ["front"] []
      index := .dynamic
        { threshold := some 18446744073709551615
          hnsw := { ef := some (-1), quantizer := some (.rotational (some 255)) } } }]
  invertedIndex := some { bm25 := some ranking, cleanupIntervalSeconds := some 4294967295 }

theorem ofJson?_toJson_book :
    Collection.ofJson? (book .default).toJson = some (book .default) ∧
      (book .default).toJson.Trim ∧
      Collection.ofJson? (book ⟨.ofMagnitude false none, .ofInt 1⟩).toJson ≠
        some (book ⟨.ofMagnitude false none, .ofInt 1⟩) := by
  have floats : (book .default).FloatsReadBack := by
    intro i mem p memRanking
    cases mem
    cases memRanking
    have b : Bm25.default.b.ReadsBack := by decide +kernel
    have k1 : Bm25.default.k1.ReadsBack := by decide +kernel
    exact ⟨b, k1⟩
  obtain ⟨back, trim, -⟩ := Collection.ofJson?_toJson (book .default)
  refine ⟨back.mpr floats, trim floats, ?_⟩
  -- An infinite parameter has no decimal.
  intro lost
  have floats := (Collection.ofJson?_toJson _).1.mp lost
  obtain ⟨d, finite, -⟩ := (floats _ rfl _ rfl).1
  cases finite

end CollectionSchema
