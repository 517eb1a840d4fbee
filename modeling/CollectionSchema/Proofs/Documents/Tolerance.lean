import CollectionSchema.Proofs.Documents.Forms
import Mathlib.Logic.Relation

/-!
Documents that say more, or less, than they need to.

A document is edited in one part, at any depth: `Form.Edited` says where, and a relation between
the members before and after says how. Two ways to edit a part are told apart. `Form.Padded` keeps
the members that a record's form knows, at most putting `null` where an optional one was missing,
and lets all other members be anything. `Form.Broken` gives a choice a second member, or puts
`null` in the place of a default. Records are edited as objects and as lists of fields alike; a
list has no members that its form does not know.

* `Form.Edited.ofJson?_eq`: padding one record changes nothing that is read.
* `Form.Edited.ofJson?_eq_none`: a document with a broken part is not read.
* `Collection.ofJson?_tolerant`: the two together, for any number of padded records.
-/

namespace CollectionSchema

open Json

namespace Form

/-! ### Edits -/

/-- One part of a document is edited, and all else stays. The part is the document itself, or it
lies in a known member, alone or in a list. -/
inductive Edited (Edit : Form → Members → Members → Prop) : Form → Json → Json → Prop where
  | here {f : Form} {ms ms' : Members} {j j' : Json} :
      f.members? j = some ms → f.members? j' = some ms' → Edit f ms ms' → Edited Edit f j j'
  | member (key : String) (k : Known) {f g : Form} {ms : Members} {j j' inner inner' : Json} :
      f.members? j = some ms → f.members? j' = some (Table.set ms key inner') →
        (key, k) ∈ f.known ms → k.content = .one g → Table.get? ms key = some inner →
          Edited Edit g inner inner' → Edited Edit f j j'
  | item (key : String) (k : Known) (before after : List Json) {f g : Form} {ms : Members}
      {j j' inner inner' : Json} :
      f.members? j = some ms →
        f.members? j' = some (Table.set ms key (.array (before ++ inner' :: after))) →
          (key, k) ∈ f.known ms → k.content = .many g →
            Table.get? ms key = some (.array (before ++ inner :: after)) →
              Edited Edit g inner inner' → Edited Edit f j j'

/-- What may become of a known member: nothing, or `null` where an optional one is missing. -/
def Known.Padded (k : Known) (value value' : Option Json) : Prop :=
  value' = value ∨ (∃ c, k = .optional c) ∧ value = none ∧ value' = some .null

/-- Records of the same known members, but for optional ones that are missing in the first and
may be `null` in the second. Under all other keys they may hold anything, in any order. The single
member of a choice leaves no room for others. -/
structure Padded (f : Form) (ms ms' : Members) : Prop where
  record : f.isChoice = false
  known : ∀ entry ∈ f.known ms, entry.2.Padded (Table.get? ms entry.1) (Table.get? ms' entry.1)

/-- Parts that are no longer read: a choice with a second member, before or after the first, and
a record with `null` in the place of a default. -/
inductive Broken : Form → Members → Members → Prop where
  | second {f : Form} {entry other : String × Json} {ms' : Members} :
      f.isChoice → ms'.Perm [entry, other] → Broken f [entry] ms'
  | null (key : String) {f : Form} {ms : Members} {c : Content} :
      (key, .defaulted c) ∈ f.known ms → Broken f ms (Table.set ms key .null)

/-! ### Padding -/

section Padding

variable {f : Form} {ms : Members} (key : String) {c : Content}

/-- Anything may be put under a key that the form does not know. -/
theorem padded_set_of_notMem (record : f.isChoice = false)
    (unknown : key ∉ (f.known ms).names) (j : Json) : f.Padded ms (Table.set ms key j) := by
  refine ⟨record, ?_⟩
  intro entry mem
  have other : entry.1 ≠ key := by
    rintro rfl
    exact unknown (List.mem_map_of_mem mem)
  rw [Table.get?_set, if_neg other]
  exact .inl rfl

/-- What is unset may be written as `null`. -/
theorem padded_set_null (record : f.isChoice = false)
    (known : (key, .optional c) ∈ f.known ms) (missing : Table.get? ms key = none) :
    f.Padded ms (Table.set ms key .null) := by
  refine ⟨record, ?_⟩
  rintro ⟨other, k⟩ mem
  rw [Table.get?_set]
  by_cases here : other = key
  · subst here
    rw [if_pos rfl]
    exact .inr ⟨⟨c, eq_of_mem_known known mem⟩, missing, rfl⟩
  · rw [if_neg here]
    exact .inl rfl

theorem Known.Padded.same {k : Known} {value value' : Option Json}
    (padded : k.Padded value value') : k.Same value value' := by
  obtain rfl | ⟨⟨c, rfl⟩, rfl, rfl⟩ := padded
  · exact .refl
  · exact .unset

/-- A padded record is read as before. -/
theorem Padded.ofJson?_eq {ms' : Members} (padded : f.Padded ms ms') :
    f.ofJson? (.object ms') = f.ofJson? (.object ms) := by
  refine (lawful padded.record).congr ?_
  intro entry mem
  exact (padded.known entry mem).same

end Padding

/-! ### Breaking -/

section Choices

variable {f : Form} {ms : Members} (several : ms.length ≠ 1)
include several

theorem word?_of_length_ne : (Json.object ms).word? = none := by
  unfold word?
  split
  next same => cases same
  next same => cases same; exact absurd rfl several
  next => rfl

theorem ofJson?_index_of_length_ne : VectorIndex.ofJson? (.object ms) = none := by
  unfold VectorIndex.ofJson?
  split
  next same => cases same; exact absurd rfl several
  next same => cases same; exact absurd rfl several
  next same => cases same; exact absurd rfl several
  next => rfl

/-- A choice has one member. -/
theorem ofJson?_of_length_ne (choice : f.isChoice) : f.ofJson? (.object ms) = none := by
  cases f with
  | index => exact ofJson?_index_of_length_ne several
  | dataKind | tokenization | distance | deletion =>
      rw [ofJson?, Enumeration.ofJson?, word?_of_length_ne several, Option.bind_none]
  | _ => cases choice

end Choices

theorem Broken.ofJson?_eq_none {f : Form} {ms ms' : Members} (broken : Broken f ms ms') :
    f.ofJson? (.object ms') = none := by
  cases broken with
  | second choice perm =>
      refine ofJson?_of_length_ne ?_ choice
      simp [perm.length_eq]
  | null key known => exact ofJson?_set_eq_none known .null

/-! ### At any depth -/

namespace Edited

variable {Edit : Form → Members → Members → Prop} {f : Form} {j j' : Json}

theorem ne_null_of_members? {ms : Members} (written : f.members? j = some ms) : j ≠ .null := by
  rintro rfl
  rw [members?_null] at written
  cases written

/-- Only records and choices are edited. -/
theorem ne_null (edited : Edited Edit f j j') : j ≠ .null ∧ j' ≠ .null := by
  cases edited with
  | here old new _ => exact ⟨ne_null_of_members? old, ne_null_of_members? new⟩
  | member _ _ old new => exact ⟨ne_null_of_members? old, ne_null_of_members? new⟩
  | item _ _ _ _ old new => exact ⟨ne_null_of_members? old, ne_null_of_members? new⟩

/-- **A step of padding**: one record is padded, at any depth, and the whole is read as before. -/
theorem ofJson?_eq (edited : Edited Padded f j j') : f.ofJson? j' = f.ofJson? j := by
  induction edited with
  | here old new padded =>
      rw [ofJson?_eq_of_members? old, ofJson?_eq_of_members? new]
      exact padded.ofJson?_eq
  | member key k old new known content there inner ih =>
      rw [ofJson?_eq_of_members? old, ofJson?_eq_of_members? new]
      refine ofJson?_set known there (.content inner.ne_null.1 inner.ne_null.2 ?_)
      rw [content]
      exact ih
  | item key k before after old new known content there inner ih =>
      rw [ofJson?_eq_of_members? old, ofJson?_eq_of_members? new]
      refine ofJson?_set known there (.content nofun nofun ?_)
      rw [content, Content.Agree, list?, list?]
      simp only [List.mapM_append, List.mapM_cons, ih]

/-- A part that is not read, at any depth, keeps the whole from being read. -/
theorem ofJson?_eq_none (edited : Edited Broken f j j') : f.ofJson? j' = none := by
  induction edited with
  | here _ new broken =>
      rw [ofJson?_eq_of_members? new]
      exact broken.ofJson?_eq_none
  | member key k _ new known content there inner ih =>
      rw [ofJson?_eq_of_members? new]
      refine ofJson?_set_eq_none known (.content inner.ne_null.2 ?_)
      rw [content]
      exact ih
  | item key k before after _ new known content there inner ih =>
      rw [ofJson?_eq_of_members? new]
      refine ofJson?_set_eq_none known (.content nofun ?_)
      rw [content, Content.Fails, list?]
      simp [List.mapM_append, List.mapM_cons, ih]

end Edited

end Form

namespace Collection

open Form

/-- **Readers are tolerant, in all but two things.** However many records of a document are
padded, at any depth, with members that their forms or variants do not know and with `null` for
what is unset, the collection that is read is the same. A second member of an index or of a word,
and `null` in the place of a default, leave no collection to be read. -/
theorem ofJson?_tolerant {j j' : Json}
    (padded : Relation.ReflTransGen (Edited Padded .collection) j j') :
    ofJson? j' = ofJson? j ∧
      ∀ broken, Edited Broken .collection j' broken → ofJson? broken = none := by
  constructor
  · induction padded with
    | refl => rfl
    | tail _ edited ih => exact edited.ofJson?_eq.trans ih
  · intro broken edited
    exact edited.ofJson?_eq_none

end Collection

/-! ### A shelf and its cover -/

namespace Form

/-- A vector in a document. -/
def cover (vectorizer index : Members) : Json :=
  .object [
    ("name", .string "cover"),
    ("vectorizer", .object vectorizer),
    ("vectorIndexConfig", .object index)]

/-- The document of a collection with one vector. -/
def shelf (vectorizer index : Members) : Json :=
  .object [("name", .string "Shelf"), ("vectors", .array [cover vectorizer index])]

section Shelf

variable {Edit : Form → Members → Members → Prop} {before after : Members}

theorem Edited.shelf_vectorizer (index : Members)
    (edited : Edited Edit .vectorizer (.object before) (.object after)) :
    Edited Edit .collection (shelf before index) (shelf after index) := by
  have inner : Edited Edit .vector (cover before index) (cover after index) :=
    .member "vectorizer" (.required (.one .vectorizer)) rfl rfl (by simp [known]) rfl rfl edited
  exact .item "vectors" (.defaulted (.many .vector)) [] [] rfl rfl (by simp [known]) rfl rfl inner

theorem Edited.shelf_index (vectorizer : Members)
    (edited : Edited Edit .index (.object before) (.object after)) :
    Edited Edit .collection (shelf vectorizer before) (shelf vectorizer after) := by
  have inner : Edited Edit .vector (cover vectorizer before) (cover vectorizer after) :=
    .member "vectorIndexConfig" (.required (.one .index)) rfl rfl (by simp [known]) rfl rfl edited
  exact .item "vectors" (.defaulted (.many .vector)) [] [] rfl rfl (by simp [known]) rfl rfl inner

end Shelf

end Form

namespace Collection

open Form

/-- A vectorizer with a parameter that only other vectorizers know. -/
def strangeVectorizer : Members :=
  [("type", .string "text2vec-cohere"), ("dimensions", .string "many")]

/-- An index whose settings are a list: a metric, as an object, and what is written for the
settings after it. -/
def listedIndex (metric : Members) (others : List Json) : Members :=
  [("dynamic", .array (.object metric :: others))]

/-- A strange parameter and an unset setting are read past; a second family of the index, a
second metric and sources that are `null` are not. -/
theorem ofJson?_tolerant_shelf :
    let cosine : Members := [("cosine", .null)]
    let plain := shelf [("type", .string "text2vec-cohere")] (listedIndex cosine [])
    let unsetIndex := listedIndex cosine [.null]
    (ofJson? plain).isSome ∧ ofJson? (shelf strangeVectorizer unsetIndex) = ofJson? plain ∧
      ofJson? (shelf strangeVectorizer (("flat", .object []) :: unsetIndex)) = none ∧
      ofJson? (shelf strangeVectorizer (listedIndex (("dot", .null) :: cosine) [.null])) = none ∧
      ofJson? (shelf (strangeVectorizer ++ [("sourceProperties", .null)]) unsetIndex) = none := by
  intro cosine plain unsetIndex
  have strange : Padded .vectorizer [("type", .string "text2vec-cohere")] strangeVectorizer := by
    refine padded_set_of_notMem "dimensions" rfl ?_ _
    decide
  have unset : Padded .dynamicIndex [("distance", .object cosine)]
      [("distance", .object cosine), ("threshold", .null)] := by
    refine padded_set_null "threshold" (c := .plain) rfl ?_ rfl
    decide
  have index : Edited Padded .index (.object (listedIndex cosine [])) (.object unsetIndex) :=
    .member "dynamic" (.required (.one .dynamicIndex)) rfl rfl (by decide) rfl rfl
      (.here rfl rfl unset)
  have padded : Relation.ReflTransGen (Edited Padded .collection) plain
      (shelf strangeVectorizer unsetIndex) :=
    .tail (.single (.shelf_vectorizer _ (.here rfl rfl strange))) (.shelf_index _ index)
  obtain ⟨same, broken⟩ := ofJson?_tolerant padded
  have second : Broken .index unsetIndex (("flat", .object []) :: unsetIndex) :=
    .second rfl (.swap ..)
  have secondMetric : Edited Broken .index (.object unsetIndex)
      (.object (listedIndex (("dot", .null) :: cosine) [.null])) :=
    .member "dynamic" (.required (.one .dynamicIndex)) rfl rfl (by decide) rfl rfl <|
      .member "distance" (.optional (.one .distance)) rfl rfl (by decide) rfl rfl <|
        .here rfl rfl (.second rfl (.swap ..))
  have null : Broken .vectorizer strangeVectorizer
      (strangeVectorizer ++ [("sourceProperties", .null)]) := by
    refine .null "sourceProperties" (c := .plain) ?_
    decide
  exact ⟨by decide, same, broken _ (.shelf_index _ (.here rfl rfl second)),
    broken _ (.shelf_index _ secondMetric), broken _ (.shelf_vectorizer _ (.here rfl rfl null))⟩

/-- The document of a collection with one property, whose kind is an object. -/
def leaflet (kind : Members) : Json :=
  .object [
    ("name", .string "Leaflet"),
    ("properties", .array [
      .object [("name", .string "headline"), ("dataType", .array [.object kind])]])]

/-- An object that names a kind leaves no room for strange members. -/
theorem ofJson?_intolerant_leaflet :
    (ofJson? (leaflet [("text", .null)])).isSome ∧
      ofJson? (leaflet [("text", .null), ("since", .string "2")]) = none := by
  constructor
  · decide
  · rfl

end Collection

end CollectionSchema
