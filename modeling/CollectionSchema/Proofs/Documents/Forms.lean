import CollectionSchema.Proofs.Documents.Schema
import Mathlib.Data.List.Nodup

/-!
The parts that the document of a collection is made of, and the members that each knows.

A form is one kind of part. Most are records, written as objects or as lists of their fields.
`Form.known` lists the keys that a form looks up and how it asks for each: a member that is
required, one that may be unset, or one with a default, and what is read there. For a vectorizer
and a quantizer the list is that of the variant that the record is tagged with. The others are
choices, whose objects have one single key: an index, with its settings under its family, and the
words of enumerations, with nothing under them.

* `Form.lawful`: what a record is read as depends on nothing but the members its form knows, and
  it is not read if one of them is not.
* `Form.ofJson?_eq_of_members?`: a record is read by its members, whether it is an object or a
  list.
* `Form.ofJson?_set`, `Form.ofJson?_set_eq_none`: what becomes of an object, and of an index
  too, when one member is written over.
-/

namespace CollectionSchema

open Json

/-! ### The forms -/

/-- The kinds of parts in the document of a collection. -/
inductive Form where
  | collection
  | property
  | reference
  | vector
  | vectorizer
  | index
  | hnswIndex
  | flatIndex
  | dynamicIndex
  | quantizer
  | invertedIndex
  | ranking
  | stopwords
  | replication
  | sharding
  | multiTenancy
  | dataKind
  | tokenization
  | distance
  | deletion
deriving DecidableEq, Repr

namespace Form

/-- What is read from a part of a form. -/
abbrev Value : Form → Type
  | collection => Collection
  | property => Property
  | reference => Reference
  | vector => NamedVector
  | vectorizer => Vectorizer
  | index => VectorIndex
  | hnswIndex => HnswIndex
  | flatIndex => FlatIndex
  | dynamicIndex => DynamicIndex
  | quantizer => Quantizer
  | invertedIndex => InvertedIndex
  | ranking => Bm25
  | stopwords => Stopwords
  | replication => Replication
  | sharding => Sharding
  | multiTenancy => MultiTenancy
  | dataKind => DataKind
  | tokenization => Tokenization
  | distance => Distance
  | deletion => DeletionStrategy

/-- Reads a part of a form. -/
def ofJson? : (f : Form) → Json → Option f.Value
  | collection => Collection.ofJson?
  | property => Property.ofJson?
  | reference => Reference.ofJson?
  | vector => NamedVector.ofJson?
  | vectorizer => Vectorizer.ofJson?
  | index => VectorIndex.ofJson?
  | hnswIndex => HnswIndex.ofJson?
  | flatIndex => FlatIndex.ofJson?
  | dynamicIndex => DynamicIndex.ofJson?
  | quantizer => Quantizer.ofJson?
  | invertedIndex => InvertedIndex.ofJson?
  | ranking => Bm25.ofJson?
  | stopwords => Stopwords.ofJson?
  | replication => Replication.ofJson?
  | sharding => Sharding.ofJson?
  | multiTenancy => MultiTenancy.ofJson?
  | dataKind => Enumeration.ofJson?
  | tokenization => Enumeration.ofJson?
  | distance => Enumeration.ofJson?
  | deletion => Enumeration.ofJson?

/-- The forms whose objects have one key, which is the name of what was chosen. -/
def isChoice : Form → Bool
  | index | dataKind | tokenization | distance | deletion => true
  | _ => false

/-- What stands under a key: a value without parts, one part, or a list of them. -/
inductive Content where
  | plain
  | one (form : Form)
  | many (form : Form)
deriving DecidableEq, Repr

/-- How a form asks for a member. -/
inductive Known where
  | required (content : Content)
  | optional (content : Content)
  | defaulted (content : Content)
deriving DecidableEq, Repr

/-- What stands under the key. -/
def Known.content : Known → Content
  | required c | optional c | defaulted c => c

/-- The parameters of each vectorizer. -/
def vectorizerKnown : String → Table Known
  | "text2vec-openai" => [
      ("model", .optional .plain),
      ("dimensions", .optional .plain),
      ("baseUrl", .optional .plain),
      ("sourceProperties", .defaulted .plain),
      ("vectorizeCollectionName", .optional .plain)]
  | "text2vec-cohere" => [
      ("model", .optional .plain),
      ("truncate", .optional .plain),
      ("sourceProperties", .defaulted .plain)]
  | "text2vec-transformers" => [
      ("poolingStrategy", .optional .plain),
      ("inferenceUrl", .optional .plain),
      ("sourceProperties", .defaulted .plain)]
  | "text2vec-ollama" => [
      ("model", .required .plain),
      ("apiEndpoint", .optional .plain),
      ("sourceProperties", .defaulted .plain)]
  | "multi2vec-clip" => [
      ("inferenceUrl", .optional .plain),
      ("imageFields", .defaulted .plain),
      ("textFields", .defaulted .plain)]
  | "ref2vec-centroid" => [
      ("referenceProperties", .required .plain),
      ("method", .optional .plain)]
  | _ => []

/-- The parameters of each quantizer. -/
def quantizerKnown : String → Table Known
  | "pq" => [("segments", .optional .plain), ("centroids", .optional .plain)]
  | "bq" => [("cache", .optional .plain)]
  | "sq" => [("trainingLimit", .optional .plain)]
  | "rq" => [("bits", .optional .plain)]
  | _ => []

/-- The tag of an object, and the members that go with it. -/
def taggedKnown (variants : String → Table Known) (ms : Members) : Table Known :=
  ("type", .required .plain) :: (ms.required "type" string?).elim [] variants

/-- The settings of an index, under its family. -/
def indexKnown : Members → Table Known
  | [("hnsw", _)] => [("hnsw", .required (.one hnswIndex))]
  | [("flat", _)] => [("flat", .required (.one flatIndex))]
  | [("dynamic", _)] => [("dynamic", .required (.one dynamicIndex))]
  | _ => []

/-- The members that a record, or an index, of a form knows. -/
def known : Form → Members → Table Known
  | collection, _ => [
      ("name", .required .plain),
      ("description", .optional .plain),
      ("properties", .defaulted (.many property)),
      ("references", .defaulted (.many reference)),
      ("vectors", .defaulted (.many vector)),
      ("invertedIndexConfig", .optional (.one invertedIndex)),
      ("replicationConfig", .defaulted (.one replication)),
      ("shardingConfig", .optional (.one sharding)),
      ("multiTenancyConfig", .defaulted (.one multiTenancy))]
  | property, _ => [
      ("name", .required .plain),
      ("dataType", .required (.many dataKind)),
      ("description", .optional .plain),
      ("indexFilterable", .optional .plain),
      ("indexSearchable", .optional .plain),
      ("indexRangeFilters", .optional .plain),
      ("tokenization", .optional (.one tokenization)),
      ("nestedProperties", .defaulted (.many property))]
  | reference, _ => [
      ("name", .required .plain),
      ("targetCollection", .required .plain),
      ("description", .optional .plain)]
  | vector, _ => [
      ("name", .required .plain),
      ("vectorizer", .required (.one vectorizer)),
      ("vectorIndexConfig", .required (.one index))]
  | vectorizer, ms => taggedKnown vectorizerKnown ms
  | index, ms => indexKnown ms
  | hnswIndex, _ => [
      ("distance", .optional (.one distance)),
      ("ef", .optional .plain),
      ("efConstruction", .optional .plain),
      ("maxConnections", .optional .plain),
      ("quantizer", .optional (.one quantizer))]
  | flatIndex, _ => [
      ("distance", .optional (.one distance)),
      ("vectorCacheMaxObjects", .optional .plain),
      ("quantizer", .optional (.one quantizer))]
  | dynamicIndex, _ => [
      ("distance", .optional (.one distance)),
      ("threshold", .optional .plain),
      ("hnsw", .defaulted (.one hnswIndex)),
      ("flat", .defaulted (.one flatIndex))]
  | quantizer, ms => taggedKnown quantizerKnown ms
  | invertedIndex, _ => [
      ("bm25", .optional (.one ranking)),
      ("cleanupIntervalSeconds", .optional .plain),
      ("indexNullState", .optional .plain),
      ("indexPropertyLength", .optional .plain),
      ("indexTimestamps", .optional .plain),
      ("stopwords", .optional (.one stopwords))]
  | ranking, _ => [
      ("b", .required .plain),
      ("k1", .required .plain)]
  | stopwords, _ => [
      ("preset", .optional .plain),
      ("additions", .defaulted .plain),
      ("removals", .defaulted .plain)]
  | replication, _ => [
      ("factor", .optional .plain),
      ("asyncEnabled", .optional .plain),
      ("deletionStrategy", .optional (.one deletion))]
  | sharding, _ => [
      ("desiredCount", .optional .plain),
      ("virtualPerPhysical", .optional .plain),
      ("key", .optional .plain)]
  | multiTenancy, _ => [
      ("enabled", .defaulted .plain),
      ("autoTenantCreation", .optional .plain),
      ("autoTenantActivation", .optional .plain)]
  | dataKind, _ | tokenization, _ | distance, _ | deletion, _ => []

/-- The members of a part: those of an object or, for a record, the items of a list under the
keys that its form knows. -/
def members? : Form → Json → Option Members
  | vectorizer => tagged? Vectorizer.parameters
  | quantizer => tagged? Quantizer.parameters
  | f => if f.isChoice then Json.members? else fields? (f.known []).names

/-! ### No key is known twice -/

theorem nodup_names_vectorizerKnown (tag : String) :
    ("type" :: (vectorizerKnown tag).names).Nodup := by
  unfold vectorizerKnown
  split <;> decide

theorem nodup_names_quantizerKnown (tag : String) :
    ("type" :: (quantizerKnown tag).names).Nodup := by
  unfold quantizerKnown
  split <;> decide

theorem nodup_names_taggedKnown {variants : String → Table Known}
    (nodup : ∀ tag, ("type" :: (variants tag).names).Nodup) (ms : Members) :
    (taggedKnown variants ms).names.Nodup := by
  rw [taggedKnown]
  cases ms.required "type" string? with
  | none => exact List.nodup_singleton _
  | some tag => exact nodup tag

/-- No form knows a key twice. -/
theorem nodup_names_known (f : Form) (ms : Members) : (f.known ms).names.Nodup := by
  cases f with
  | vectorizer => exact nodup_names_taggedKnown nodup_names_vectorizerKnown ms
  | quantizer => exact nodup_names_taggedKnown nodup_names_quantizerKnown ms
  | index =>
      change (indexKnown ms).names.Nodup
      unfold indexKnown
      split <;> decide
  | _ => simp [known, Table.names]

/-- A key is known in one way. -/
theorem eq_of_mem_known {f : Form} {ms : Members} {key : String} {k k' : Known}
    (mem : (key, k) ∈ f.known ms) (mem' : (key, k') ∈ f.known ms) : k' = k :=
  congrArg Prod.snd (List.inj_on_of_nodup_map (nodup_names_known f ms) mem' mem rfl)

/-! ### What a reader makes of a content -/

/-- Two values say the same: they are the same, or the parts in them are read the same. -/
def Content.Agree : Content → Json → Json → Prop
  | plain, j, j' => j' = j
  | one f, j, j' => f.ofJson? j' = f.ofJson? j
  | many f, j, j' => list? f.ofJson? j' = list? f.ofJson? j

/-- A part of a value is not read. -/
def Content.Fails : Content → Json → Prop
  | plain, _ => False
  | one f, j => f.ofJson? j = none
  | many f, j => list? f.ofJson? j = none

/-- A reader of a content: of a part it reads what its form does, and `null` it does not
read. -/
structure Content.ReadBy {α : Type} (c : Content) (read : Json → Option α) : Prop where
  agree {j j' : Json} : c.Agree j j' → read j' = read j
  fails {j : Json} : c.Fails j → read j = none
  null : read .null = none

section ReadBy

variable {α : Type} {read : Json → Option α}

theorem Content.ReadBy.plain (null : read .null = none) : Content.plain.ReadBy read :=
  ⟨congrArg read, False.elim, null⟩

theorem Content.ReadBy.one (f : Form) : (Content.one f).ReadBy f.ofJson? :=
  ⟨id, id, by cases f <;> rfl⟩

theorem Content.ReadBy.many (f : Form) : (Content.many f).ReadBy (list? f.ofJson?) :=
  ⟨id, id, rfl⟩

end ReadBy

/-! ### What a form makes of a member -/

/-- Two members that are read the same: the same one, an unset one that is missing or `null`, or
two values that say the same. -/
inductive Known.Same : Known → Option Json → Option Json → Prop where
  | refl {k : Known} {value : Option Json} : Same k value value
  | unset {c : Content} : Same (optional c) none (some .null)
  | content {k : Known} {j j' : Json} : j ≠ .null → j' ≠ .null → k.content.Agree j j' →
      Same k (some j) (some j')

/-- A member that is not read: `null` in the place of a default, or a value with a part that is
not read. -/
inductive Known.Fails : Known → Option Json → Prop where
  | null {c : Content} : Fails (defaulted c) (some .null)
  | content {k : Known} {j : Json} : j ≠ .null → k.content.Fails j → Fails k (some j)

section Asking

variable {α : Type} {read : Json → Option α} {c : Content} {key : String} {ms ms' : Members}

theorem optional_eq_of_some {j : Json} (there : Table.get? ms key = some j) (set : j ≠ .null) :
    ms.optional key read = (read j).map some := by
  cases j with
  | null => exact absurd rfl set
  | _ => rw [Members.optional, there]

theorem required_congr (reads : c.ReadBy read)
    (same : (Known.required c).Same (Table.get? ms key) (Table.get? ms' key)) :
    ms'.required key read = ms.required key read := by
  rw [Members.required, Members.required]
  generalize Table.get? ms key = old, Table.get? ms' key = new at same ⊢
  cases same with
  | refl => rfl
  | content _ _ agree => exact reads.agree agree

theorem withDefault_congr {default : α} (reads : c.ReadBy read)
    (same : (Known.defaulted c).Same (Table.get? ms key) (Table.get? ms' key)) :
    ms'.withDefault key read default = ms.withDefault key read default := by
  rw [Members.withDefault, Members.withDefault]
  generalize Table.get? ms key = old, Table.get? ms' key = new at same ⊢
  cases same with
  | refl => rfl
  | content _ _ agree => exact reads.agree agree

theorem optional_congr (reads : c.ReadBy read)
    (same : (Known.optional c).Same (Table.get? ms key) (Table.get? ms' key)) :
    ms'.optional key read = ms.optional key read := by
  generalize old : Table.get? ms key = value, new : Table.get? ms' key = value' at same
  cases same with
  | refl => rw [Members.optional, Members.optional, old, new]
  | unset => rw [Members.optional, Members.optional, old, new]
  | content set set' agree =>
      rw [optional_eq_of_some old set, optional_eq_of_some new set', reads.agree agree]

theorem required_eq_none (reads : c.ReadBy read)
    (fails : (Known.required c).Fails (Table.get? ms key)) : ms.required key read = none := by
  rw [Members.required]
  generalize Table.get? ms key = value at fails ⊢
  cases fails with
  | content _ fails => exact reads.fails fails

theorem withDefault_eq_none {default : α} (reads : c.ReadBy read)
    (fails : (Known.defaulted c).Fails (Table.get? ms key)) :
    ms.withDefault key read default = none := by
  rw [Members.withDefault]
  generalize Table.get? ms key = value at fails ⊢
  cases fails with
  | null => exact reads.null
  | content _ fails => exact reads.fails fails

theorem optional_eq_none (reads : c.ReadBy read)
    (fails : (Known.optional c).Fails (Table.get? ms key)) : ms.optional key read = none := by
  generalize there : Table.get? ms key = value at fails
  cases fails with
  | content set fails => rw [optional_eq_of_some there set, reads.fails fails, Option.map_none]

end Asking

/-! ### Readers that ask for the members of a table -/

/-- A reader that depends on the members of a table only, and needs all of them to be read. -/
structure Reads {α : Type} (table : Table Known) (read : Members → Option α) : Prop where
  congr {ms ms' : Members} :
    (∀ entry ∈ table, entry.2.Same (Table.get? ms entry.1) (Table.get? ms' entry.1)) →
      read ms' = read ms
  fails {ms : Members} {key : String} {k : Known} :
    (key, k) ∈ table → k.Fails (Table.get? ms key) → read ms = none

namespace Reads

variable {α β : Type} {c : Content} {key : String} {read : Json → Option β} {rest : Table Known}

theorem const (result : Option α) : Reads [] fun _ => result :=
  ⟨fun _ => rfl, nofun⟩

theorem nothing {read : Members → Option α} (unread : ∀ ms, read ms = none) : Reads [] read := by
  have same : read = fun _ => none := funext unread
  exact same ▸ const none

/-- A member is asked for and then the members of a table. -/
theorem cons {k : Known} {ask : Members → Option β} {next : β → Members → Option α}
    (congr : ∀ {ms ms' : Members}, k.Same (Table.get? ms key) (Table.get? ms' key) →
      ask ms' = ask ms)
    (fails : ∀ {ms : Members}, k.Fails (Table.get? ms key) → ask ms = none)
    (reads : ∀ b, Reads rest (next b)) :
    Reads ((key, k) :: rest) fun ms => ask ms >>= fun b => next b ms := by
  constructor
  · intro ms ms' same
    have first : ask ms' = ask ms := congr (same _ (List.mem_cons_self ..))
    have others : ∀ b, next b ms' = next b ms := by
      intro b
      refine (reads b).congr ?_
      intro entry mem
      exact same entry (List.mem_cons_of_mem _ mem)
    simp only [first, others]
  · intro ms key' k' mem failed
    obtain ⟨rfl, rfl⟩ | later := List.mem_cons.mp mem |>.imp_left Prod.mk.inj
    · simp [fails failed]
    · have others : ∀ b, next b ms = none := fun b => (reads b).fails later failed
      simp [others]

variable {next : β → Members → Option α}

theorem required (content : c.ReadBy read) (reads : ∀ b, Reads rest (next b)) :
    Reads ((key, .required c) :: rest) fun ms =>
      ms.required key read >>= fun b => next b ms :=
  cons (required_congr content) (required_eq_none content) reads

theorem withDefault {default : β} (content : c.ReadBy read) (reads : ∀ b, Reads rest (next b)) :
    Reads ((key, .defaulted c) :: rest) fun ms =>
      ms.withDefault key read default >>= fun b => next b ms :=
  cons (withDefault_congr content) (withDefault_eq_none content) reads

theorem optional {next : Option β → Members → Option α} (content : c.ReadBy read)
    (reads : ∀ b, Reads rest (next b)) :
    Reads ((key, .optional c) :: rest) fun ms =>
      ms.optional key read >>= fun b => next b ms :=
  cons (optional_congr content) (optional_eq_none content) reads

/-- The reader of a record reads the members of an object. -/
theorem members {table : Table Known} {names : List String} {read : Members → Option α}
    (reads : Reads table read) : Reads table fun ms => (object ms).fields? names >>= read :=
  reads

end Reads

/-! ### Laws of forms -/

/-- What a form knows of an object is all that matters to it. -/
structure Lawful (f : Form) : Prop where
  congr {ms ms' : Members} :
    (∀ entry ∈ f.known ms, entry.2.Same (Table.get? ms entry.1) (Table.get? ms' entry.1)) →
      f.ofJson? (.object ms') = f.ofJson? (.object ms)
  set_fails {ms : Members} {key : String} {k : Known} {j : Json} :
    (key, k) ∈ f.known ms → k.Fails (some j) → f.ofJson? (.object (Table.set ms key j)) = none

theorem get?_set_self (ms : Members) (key : String) (j : Json) :
    Table.get? (Table.set ms key j) key = some j := by
  rw [Table.get?_set, if_pos rfl]

/-- A form that knows the same members in every object. -/
theorem Lawful.of_reads {f : Form}
    (reads : ∀ ms₀, Reads (f.known ms₀) fun ms => f.ofJson? (.object ms)) : Lawful f := by
  constructor
  · intro ms ms' same
    exact (reads ms).congr same
  · intro ms key k j mem fails
    refine (reads ms).fails mem ?_
    rw [get?_set_self]
    exact fails

/-- A form of variants: the tag is read first, and it tells what else there is. -/
theorem Lawful.of_tagged {f : Form} {variants : String → Table Known}
    {next : String → Members → Option f.Value} (tagged : f.known = taggedKnown variants)
    (reader : ∀ ms : Members, f.ofJson? (.object ms) =
      ms.required "type" string? >>= fun tag => next tag ms)
    (nodup : ∀ tag, ("type" :: (variants tag).names).Nodup)
    (reads : ∀ tag, Reads (variants tag) (next tag)) : Lawful f := by
  constructor
  · intro ms ms' same
    rw [tagged] at same
    have sameTag : ms'.required "type" string? = ms.required "type" string? :=
      required_congr (.plain rfl) (same _ (List.mem_cons_self ..))
    rw [reader, reader, sameTag]
    cases tag : ms.required "type" string? with
    | none => rfl
    | some tag' =>
        refine (reads tag').congr ?_
        intro entry mem
        refine same entry (List.mem_cons_of_mem _ ?_)
        rwa [tag]
  · intro ms key k j mem fails
    rw [tagged, taggedKnown] at mem
    cases mem with
    | head =>
        -- A tag has no object inside that might not be read.
        cases fails with
        | content _ fails => exact fails.elim
    | tail _ mem =>
        cases tag : ms.required "type" string? with
        | none =>
            rw [tag] at mem
            cases mem
        | some tag' =>
            rw [tag] at mem
            have other : "type" ≠ key := by
              rintro rfl
              exact (List.nodup_cons.mp (nodup tag')).1 (List.mem_map_of_mem mem)
            have kept : Members.required (Table.set ms key j) "type" string? = some tag' := by
              rw [Members.required, Table.get?_set, if_neg other]
              exact tag
            rw [reader, kept]
            refine (reads tag').fails mem ?_
            rw [get?_set_self]
            exact fails

/-! ### The forms, one by one -/

section Each

open Content.ReadBy

theorem lawful_collection : Lawful collection :=
  .of_reads fun _ => .members <|
    .required (plain rfl) fun _ =>
    .optional (plain rfl) fun _ =>
    .withDefault (many property) fun _ =>
    .withDefault (many reference) fun _ =>
    .withDefault (many vector) fun _ =>
    .optional (one invertedIndex) fun _ =>
    .withDefault (one replication) fun _ =>
    .optional (one sharding) fun _ =>
    .withDefault (one multiTenancy) fun _ => .const _

theorem lawful_property : Lawful property := by
  refine .of_reads fun _ => ?_
  simp only [ofJson?, Property.ofJson?_eq]
  exact .members <|
    .required (plain rfl) fun _ =>
    .required (many dataKind) fun _ =>
    .optional (plain rfl) fun _ =>
    .optional (plain rfl) fun _ =>
    .optional (plain rfl) fun _ =>
    .optional (plain rfl) fun _ =>
    .optional (one tokenization) fun _ =>
    .withDefault (many property) fun _ => .const _

theorem lawful_reference : Lawful reference :=
  .of_reads fun _ => .members <|
    .required (plain rfl) fun _ =>
    .required (plain rfl) fun _ =>
    .optional (plain rfl) fun _ => .const _

theorem lawful_vector : Lawful vector :=
  .of_reads fun _ => .members <|
    .required (plain rfl) fun _ =>
    .required (one vectorizer) fun _ =>
    .required (one index) fun _ => .const _

theorem lawful_vectorizer : Lawful vectorizer := by
  refine .of_tagged rfl (fun _ => rfl) nodup_names_vectorizerKnown ?_
  intro tag
  unfold vectorizerKnown
  split
  · exact .optional (plain rfl) fun _ =>
      .optional (plain rfl) fun _ =>
      .optional (plain rfl) fun _ =>
      .withDefault (plain rfl) fun _ =>
      .optional (plain rfl) fun _ => .const _
  · exact .optional (plain rfl) fun _ =>
      .optional (plain rfl) fun _ =>
      .withDefault (plain rfl) fun _ => .const _
  · exact .optional (plain rfl) fun _ =>
      .optional (plain rfl) fun _ =>
      .withDefault (plain rfl) fun _ => .const _
  · exact .required (plain rfl) fun _ =>
      .optional (plain rfl) fun _ =>
      .withDefault (plain rfl) fun _ => .const _
  · exact .optional (plain rfl) fun _ =>
      .withDefault (plain rfl) fun _ =>
      .withDefault (plain rfl) fun _ => .const _
  · exact .required (plain rfl) fun _ =>
      .optional (plain rfl) fun _ => .const _
  · split <;> first | contradiction | exact .const _

theorem lawful_quantizer : Lawful quantizer := by
  refine .of_tagged rfl (fun _ => rfl) nodup_names_quantizerKnown ?_
  intro tag
  unfold quantizerKnown
  split
  · exact .optional (plain rfl) fun _ => .optional (plain rfl) fun _ => .const _
  · exact .optional (plain rfl) fun _ => .const _
  · exact .optional (plain rfl) fun _ => .const _
  · exact .optional (plain rfl) fun _ => .const _
  · exact .nothing fun _ => by simp [*]

theorem lawful_hnswIndex : Lawful hnswIndex :=
  .of_reads fun _ => .members <|
    .optional (one distance) fun _ =>
    .optional (plain rfl) fun _ =>
    .optional (plain rfl) fun _ =>
    .optional (plain rfl) fun _ =>
    .optional (one quantizer) fun _ => .const _

theorem lawful_flatIndex : Lawful flatIndex :=
  .of_reads fun _ => .members <|
    .optional (one distance) fun _ =>
    .optional (plain rfl) fun _ =>
    .optional (one quantizer) fun _ => .const _

theorem lawful_dynamicIndex : Lawful dynamicIndex :=
  .of_reads fun _ => .members <|
    .optional (one distance) fun _ =>
    .optional (plain rfl) fun _ =>
    .withDefault (one hnswIndex) fun _ =>
    .withDefault (one flatIndex) fun _ => .const _

theorem lawful_invertedIndex : Lawful invertedIndex :=
  .of_reads fun _ => .members <|
    .optional (one ranking) fun _ =>
    .optional (plain rfl) fun _ =>
    .optional (plain rfl) fun _ =>
    .optional (plain rfl) fun _ =>
    .optional (plain rfl) fun _ =>
    .optional (one stopwords) fun _ => .const _

theorem lawful_ranking : Lawful ranking :=
  .of_reads fun _ => .members <|
    .required (plain rfl) fun _ =>
    .required (plain rfl) fun _ => .const _

theorem lawful_stopwords : Lawful stopwords :=
  .of_reads fun _ => .members <|
    .optional (plain rfl) fun _ =>
    .withDefault (plain rfl) fun _ =>
    .withDefault (plain rfl) fun _ => .const _

theorem lawful_replication : Lawful replication :=
  .of_reads fun _ => .members <|
    .optional (plain rfl) fun _ =>
    .optional (plain rfl) fun _ =>
    .optional (one deletion) fun _ => .const _

theorem lawful_sharding : Lawful sharding :=
  .of_reads fun _ => .members <|
    .optional (plain rfl) fun _ =>
    .optional (plain rfl) fun _ =>
    .optional (plain rfl) fun _ => .const _

theorem lawful_multiTenancy : Lawful multiTenancy :=
  .of_reads fun _ => .members <|
    .withDefault (plain rfl) fun _ =>
    .optional (plain rfl) fun _ =>
    .optional (plain rfl) fun _ => .const _

end Each

/-- Every record; in a choice, it matters also how many members there are. -/
theorem lawful {f : Form} (record : f.isChoice = false) : Lawful f := by
  cases f with
  | collection => exact lawful_collection
  | property => exact lawful_property
  | reference => exact lawful_reference
  | vector => exact lawful_vector
  | vectorizer => exact lawful_vectorizer
  | hnswIndex => exact lawful_hnswIndex
  | flatIndex => exact lawful_flatIndex
  | dynamicIndex => exact lawful_dynamicIndex
  | quantizer => exact lawful_quantizer
  | invertedIndex => exact lawful_invertedIndex
  | ranking => exact lawful_ranking
  | stopwords => exact lawful_stopwords
  | replication => exact lawful_replication
  | sharding => exact lawful_sharding
  | multiTenancy => exact lawful_multiTenancy
  | index | dataKind | tokenization | distance | deletion => cases record

/-! ### Objects and lists -/

section Members

variable {f : Form} {j : Json} {ms : Members}

theorem members?_null (f : Form) : f.members? .null = none := by
  cases f <;> rfl

theorem members?_object (f : Form) (ms : Members) : f.members? (.object ms) = some ms := by
  cases f <;> rfl

/-- A choice is never a list. -/
theorem members?_of_isChoice (choice : f.isChoice) : f.members? j = j.members? := by
  cases f with
  | index | dataKind | tokenization | distance | deletion => rfl
  | _ => cases choice

/-- All that matters in a record is its members. -/
theorem exists_read (record : f.isChoice = false) :
    ∃ read : Members → Option f.Value, ∀ j, f.ofJson? j = f.members? j >>= read := by
  cases f with
  | property => exact ⟨_, Property.ofJson?_eq⟩
  | index | dataKind | tokenization | distance | deletion => cases record
  | _ => exact ⟨_, fun _ => rfl⟩

/-- A list of fields is read as the object with these members. -/
theorem ofJson?_eq_of_members? (written : f.members? j = some ms) :
    f.ofJson? j = f.ofJson? (.object ms) := by
  cases choice : f.isChoice with
  | false =>
      obtain ⟨read, reader⟩ := exists_read choice
      rw [reader, reader, written, members?_object]
  | true =>
      rw [members?_of_isChoice choice] at written
      cases j <;> cases written
      rfl

end Members

/-! ### Writing a member over -/

section Written

variable {f : Form} {ms : Members} {key : String} {k : Known} {j j' : Json}

/-- Of the choices, only an index knows a member. -/
theorem eq_index_of_mem_known (choice : f.isChoice) (known : (key, k) ∈ f.known ms) :
    f = index := by
  cases f with
  | index => rfl
  | dataKind | tokenization | distance | deletion => cases known
  | _ => cases choice

/-- An index is read as the settings of its family are. -/
theorem index_of_mem_known (known : (key, k) ∈ index.known ms) :
    ∃ (g : Form) (wrap : g.Value → VectorIndex), k = .required (.one g) ∧
      (∃ settings, ms = [(key, settings)]) ∧
      ∀ j, VectorIndex.ofJson? (.object [(key, j)]) = (g.ofJson? j).map wrap := by
  change (key, k) ∈ indexKnown ms at known
  unfold indexKnown at known
  split at known
  next settings =>
    cases List.mem_singleton.mp known
    exact ⟨hnswIndex, .hnsw, rfl, ⟨settings, rfl⟩, fun _ => rfl⟩
  next settings =>
    cases List.mem_singleton.mp known
    exact ⟨flatIndex, .flat, rfl, ⟨settings, rfl⟩, fun _ => rfl⟩
  next settings =>
    cases List.mem_singleton.mp known
    exact ⟨dynamicIndex, .dynamic, rfl, ⟨settings, rfl⟩, fun _ => rfl⟩
  next => cases known

/-- An object is read as before when a member says the same as before. -/
theorem ofJson?_set (known : (key, k) ∈ f.known ms) (there : Table.get? ms key = some j)
    (same : k.Same (some j) (some j')) :
    f.ofJson? (.object (Table.set ms key j')) = f.ofJson? (.object ms) := by
  cases choice : f.isChoice with
  | true =>
    obtain rfl := eq_index_of_mem_known choice known
    obtain ⟨g, wrap, rfl, ⟨settings, rfl⟩, reader⟩ := index_of_mem_known known
    rw [Table.get?_cons, if_pos rfl] at there
    obtain rfl := Option.some.inj there
    rw [Table.set, if_pos rfl, ofJson?, reader, reader]
    cases same with
    | refl => rfl
    | content _ _ agree => rw [agree]
  | false =>
    refine (lawful choice).congr ?_
    rintro ⟨other, k'⟩ mem
    by_cases here : other = key
    · subst here
      rw [eq_of_mem_known known mem, there, get?_set_self]
      exact same
    · rw [Table.get?_set, if_neg here]
      exact .refl

/-- An object is not read when a member is not. -/
theorem ofJson?_set_eq_none (known : (key, k) ∈ f.known ms) (fails : k.Fails (some j)) :
    f.ofJson? (.object (Table.set ms key j)) = none := by
  cases choice : f.isChoice with
  | true =>
    obtain rfl := eq_index_of_mem_known choice known
    obtain ⟨g, wrap, rfl, ⟨settings, rfl⟩, reader⟩ := index_of_mem_known known
    rw [Table.set, if_pos rfl, ofJson?, reader]
    cases fails with
    | content _ fails => rw [fails, Option.map_none]
  | false => exact (lawful choice).set_fails known fails

end Written

end Form

end CollectionSchema
