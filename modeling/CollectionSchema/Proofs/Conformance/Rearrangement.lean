import CollectionSchema.Proofs.Conformance.Paths
import Mathlib.Data.List.Perm.Basic

/-!
Schemas that come back in another order and another letter case.

A store may return a schema with the properties of each level, the references and the vectors in
any order, and with the letter case of any name changed. Where names are distinct in more than
letter case this changes nothing but how missing members are called.

* `Rearranged`: the properties of a level in another order and letter case, and so at every depth.
* `alike_of_rearranged`: a name finds the same property as before, but for order and case inside.
* `Model.report_of_rearranged`: the errors are the same, and so are the warnings up to their order
  and the names of missing members.
-/

namespace CollectionSchema

open Text

/-! ### Lists up to order -/

section Order

variable {α β γ δ : Type}

/-- The lists have the same length, and in some order their entries are related one by one. -/
def SameUpToOrder (R : α → β → Prop) (xs : List α) (ys : List β) : Prop :=
  ∃ zs, xs.Perm zs ∧ List.Forall₂ R zs ys

namespace SameUpToOrder

variable {R : α → β → Prop} {S : γ → δ → Prop} {xs xs' : List α} {ys ys' : List β}

theorem of_forall₂ (related : List.Forall₂ R xs ys) : SameUpToOrder R xs ys :=
  ⟨xs, .refl xs, related⟩

theorem refl {R : α → α → Prop} (reflexive : ∀ a, R a a) (xs : List α) : SameUpToOrder R xs xs :=
  of_forall₂ (List.forall₂_same.mpr fun a _ => reflexive a)

theorem append (first : SameUpToOrder R xs ys) (second : SameUpToOrder R xs' ys') :
    SameUpToOrder R (xs ++ xs') (ys ++ ys') := by
  obtain ⟨zs, perm, related⟩ := first
  obtain ⟨zs', perm', related'⟩ := second
  exact ⟨zs ++ zs', perm.append perm', List.rel_append related related'⟩

theorem flatMap {entries : List γ} {f : γ → List α} {g : γ → List β}
    (each : ∀ c ∈ entries, SameUpToOrder R (f c) (g c)) :
    SameUpToOrder R (entries.flatMap f) (entries.flatMap g) := by
  induction entries with
  | nil => exact of_forall₂ .nil
  | cons c rest ih =>
      rw [List.flatMap_cons, List.flatMap_cons]
      exact (each c (List.mem_cons_self ..)).append
        (ih fun c mem => each c (List.mem_cons_of_mem _ mem))

theorem map {f : α → γ} {g : β → δ} (related : ∀ a b, R a b → S (f a) (g b))
    (same : SameUpToOrder R xs ys) : SameUpToOrder S (xs.map f) (ys.map g) := by
  obtain ⟨zs, perm, forall₂⟩ := same
  refine ⟨zs.map f, perm.map f, ?_⟩
  rw [List.forall₂_map_left_iff, List.forall₂_map_right_iff]
  exact forall₂.imp related

theorem filter {p : α → Bool} {q : β → Bool} (agree : ∀ a b, R a b → p a = q b)
    (same : SameUpToOrder R xs ys) : SameUpToOrder R (xs.filter p) (ys.filter q) := by
  obtain ⟨zs, perm, forall₂⟩ := same
  refine ⟨zs.filter p, perm.filter p, ?_⟩
  refine List.rel_filter ?_ forall₂
  intro a b r
  show p a = true ↔ q b = true
  rw [agree a b r]

/-- What related entries have in common, the lists have up to order. -/
theorem perm_map {f : α → γ} {g : β → γ} (agree : ∀ a b, R a b → g b = f a)
    (same : SameUpToOrder R xs ys) : (xs.map f).Perm (ys.map g) := by
  obtain ⟨zs, perm, forall₂⟩ := same
  rw [map_eq_of_forall₂ forall₂ fun a _ b => agree a b]
  exact perm.map f

end SameUpToOrder

end Order

/-! ### Rearranged schemas -/

/-- The properties of a level in another order and with other letter case in their names, and so
at every depth. -/
inductive Rearranged : List Property → List Property → Prop where
  | nil : Rearranged [] []
  | renamed {p : Property} {ps qs nested : List Property} {name : String} :
      sameIgnoringCase name p.name → Rearranged p.nested nested → Rearranged ps qs →
        Rearranged (p :: ps) ({ p with name, nested } :: qs)
  | permuted {ps ps' qs : List Property} :
      ps.Perm ps' → Rearranged ps' qs → Rearranged ps qs

/-- The properties, references and vectors of a collection in another order and with other letter
case in their names. All else is as it was. -/
structure Collection.Rearranges (c c' : Collection) : Prop where
  properties : Rearranged c.properties c'.properties
  references :
    SameUpToOrder (fun r r' => sameIgnoringCase r'.name r.name ∧ r' = { r with name := r'.name })
      c.references c'.references
  vectors :
    SameUpToOrder (fun v v' => sameIgnoringCase v'.name v.name ∧ v' = { v with name := v'.name })
      c.vectors c'.vectors
  name : sameIgnoringCase c'.name c.name
  others : c' =
    { c with
      name := c'.name
      properties := c'.properties
      references := c'.references
      vectors := c'.vectors }

/-- The warnings are the same, or they warn of the same missing member in another letter case. -/
inductive Warning.Alike : Warning → Warning → Prop where
  | same (w : Warning) : Warning.Alike w w
  | property (parent : String) {name name' : String} : sameIgnoringCase name' name →
      Warning.Alike (Conformance.missingField (Conformance.pathTo parent name) name)
        (Conformance.missingField (Conformance.pathTo parent name') name')
  | reference {name name' : String} : sameIgnoringCase name' name →
      Warning.Alike (Conformance.missingReference name) (Conformance.missingReference name')

/-- The errors are the same in the same order, and the warnings are the same up to their order and
the letter case of missing members. -/
structure Report.Alike (r r' : Report) : Prop where
  errors : r'.errors = r.errors
  warnings : SameUpToOrder Warning.Alike r.warnings r'.warnings

namespace Report.Alike

variable {a a' b b' : Report}

theorem refl (r : Report) : r.Alike r :=
  ⟨rfl, .refl .same _⟩

theorem append (first : a.Alike a') (second : b.Alike b') : (a ++ b).Alike (a' ++ b') where
  errors := by rw [errors_append, errors_append, first.errors, second.errors]
  warnings := first.warnings.append second.warnings

theorem join {γ : Type} {entries : List γ} {f g : γ → Report}
    (each : ∀ c ∈ entries, (f c).Alike (g c)) :
    (Report.join (entries.map f)).Alike (Report.join (entries.map g)) where
  errors := by
    rw [errors_join, errors_join, List.flatMap_map, List.flatMap_map]
    exact List.flatMap_congr fun c mem => (each c mem).errors
  warnings := by
    rw [warnings_join, warnings_join, List.flatMap_map, List.flatMap_map]
    exact .flatMap fun c mem => (each c mem).warnings

end Report.Alike

/-! ### Finding a property -/

namespace Rearranged

variable {ps qs : List Property}

theorem sameUpToOrder (rearranged : Rearranged ps qs) :
    SameUpToOrder (fun p q => sameIgnoringCase q.name p.name) ps qs := by
  induction rearranged with
  | nil => exact .of_forall₂ .nil
  | @renamed p _ _ _ _ same _ _ _ ih =>
      obtain ⟨zs, perm, related⟩ := ih
      exact ⟨p :: zs, perm.cons p, .cons same related⟩
  | permuted perm _ ih =>
      obtain ⟨zs, perm', related⟩ := ih
      exact ⟨zs, perm.trans perm', related⟩

theorem perm_names (rearranged : Rearranged ps qs) :
    (ps.map fun p => foldCase p.name).Perm (qs.map fun q => foldCase q.name) :=
  rearranged.sameUpToOrder.perm_map fun _ _ same => sameIgnoringCase_iff.mp same

theorem nil_iff (rearranged : Rearranged ps qs) : ps = [] ↔ qs = [] := by
  have lengths := rearranged.perm_names.length_eq
  rw [List.length_map, List.length_map] at lengths
  rw [← List.length_eq_zero_iff, ← List.length_eq_zero_iff, lengths]

theorem names_distinct (rearranged : Rearranged ps qs)
    (distinct : DistinctIgnoringCase (ps.map (·.name))) :
    DistinctIgnoringCase (qs.map (·.name)) :=
  distinct.of_perm rearranged.perm_names

end Rearranged

/-- The properties have the same kinds, and rearranged nested properties. -/
structure Property.Corresponds (p q : Property) : Prop where
  kinds : q.kinds = p.kinds
  nested : Rearranged p.nested q.nested

/-- **A name finds the same property** wherever it is moved and however it is called, but for what
is rearranged inside. -/
theorem alike_of_rearranged {ps qs : List Property} (rearranged : Rearranged ps qs)
    (distinct : DistinctProperties ps) (name : String) :
    Option.Rel Property.Corresponds (alike (·.name) ps name) (alike (·.name) qs name) := by
  induction rearranged with
  | nil => exact .none
  | @renamed p ps qs nested other same inner rest _ ih =>
      have folded := sameIgnoringCase_iff.mp same
      rw [alike_cons, alike_cons]
      by_cases here : sameIgnoringCase p.name name
      · have there : sameIgnoringCase other name :=
          sameIgnoringCase_iff.mpr (folded.trans (sameIgnoringCase_iff.mp here))
        rw [if_pos here, if_pos there]
        exact .some ⟨rfl, inner⟩
      · have elsewhere : ¬ sameIgnoringCase other name := fun there =>
          here (sameIgnoringCase_iff.mpr (folded.symm.trans (sameIgnoringCase_iff.mp there)))
        rw [if_neg here, if_neg elsewhere]
        exact ih distinct.tail
  | permuted perm _ ih =>
      rw [alike_perm distinct.names perm]
      exact ih (distinct.perm perm)

/-! ### The check of properties -/

namespace Conformance

variable {n : Nat} {types : Catalog n} {entered : List String} {parent path : String}
  {fields : List (Field n)} {f : Field n}

theorem checkField_alike {p q : Property} (corresponds : p.Corresponds q)
    (inside : ∀ id, (types id).typeName ∉ entered → f.valueType.nested? = some id →
      (checkProperties types ((types id).typeName :: entered) path
          (types id).model.propertyFields p.nested).Alike
        (checkProperties types ((types id).typeName :: entered) path
          (types id).model.propertyFields q.nested)) :
    (checkField types entered path f (some p)).Alike
      (checkField types entered path f (some q)) := by
  have kind : q.kind? = p.kind? := congrArg List.head? corresponds.kinds
  have empty : q.nested.isEmpty = p.nested.isEmpty := by
    rw [Bool.eq_iff_iff, List.isEmpty_iff, List.isEmpty_iff, corresponds.nested.nil_iff]
  rw [checkField, checkField]
  simp only [kind, empty]
  cases f.kind? with
  | none => exact .refl _
  | some actual =>
      cases p.kind? with
      | none => exact .refl _
      | some expected =>
          dsimp only
          split
          · exact .refl _
          split
          · exact .refl _
          cases refers : f.valueType.nested? with
          | none => exact .refl _
          | some id =>
              dsimp only
              split
              · exact .refl _
              · exact inside id ‹_› refers

/-- **The properties of a level may come in any order and letter case**, and so at every depth. -/
theorem checkProperties_alike {ps qs : List Property} (distinctFields : DistinctFields types fields)
    (distinct : DistinctProperties ps) (rearranged : Rearranged ps qs) :
    (checkProperties types entered parent fields ps).Alike
      (checkProperties types entered parent fields qs) := by
  induction entered using types.entered_induction generalizing parent fields ps qs with
  | step entered ih =>
      rw [checkProperties_of_distinct distinctFields.names distinct.names,
        checkProperties_of_distinct distinctFields.names (rearranged.names_distinct distinct.names)]
      refine .append (.join fun f mem => ?_) ⟨rfl, ?_⟩
      · have partners := alike_of_rearranged rearranged distinct f.propertyName
        generalize found : alike _ ps f.propertyName = partner,
          alike _ qs f.propertyName = partner' at partners
        cases partners with
        | none => exact .refl _
        | some corresponds =>
            refine checkField_alike corresponds fun id fresh refers => ?_
            refine ih id fresh (distinctFields.inside mem refers) ?_ corresponds.nested
            exact distinct.nested (List.mem_of_find?_eq_some found)
      · refine SameUpToOrder.map (fun p q same => .property parent same)
          (rearranged.sameUpToOrder.filter fun p q same => ?_)
        rw [sameIgnoringCase_iff.mp same]

/-! ### The check of vectors and references -/

section Families

variable {α : Type} {nameOf : α → String} {names : List String} {entries entries' : List α}

/-- The names without a partner are those that no entry has up to letter case. -/
theorem unpaired_of_distinct (distinctNames : DistinctIgnoringCase names)
    (distinct : DistinctIgnoringCase (entries.map nameOf)) :
    unpaired names (Pairing.ofNames nameOf names entries) =
      names.filter fun name =>
        decide (foldCase name ∉ entries.map fun a => foldCase (nameOf a)) := by
  rw [Pairing.ofNames_of_distinct distinctNames distinct, unpaired, ← List.map_prod_left_eq_zip,
    List.filter_map, List.map_map]
  have alone : ∀ name, (alike nameOf entries name).isNone =
      decide (foldCase name ∉ entries.map fun a => foldCase (nameOf a)) := by
    intro name
    rw [Bool.eq_iff_iff, Option.isNone_iff_eq_none, alike_eq_none_iff, decide_eq_true_eq]
    simp only [sameIgnoringCase_iff, List.mem_map, not_exists, not_and]
  simp [Function.comp_def, alone]

theorem unpaired_eq_of_perm (distinctNames : DistinctIgnoringCase names)
    (distinct : DistinctIgnoringCase (entries.map nameOf))
    (perm : (entries.map fun a => foldCase (nameOf a)).Perm
      (entries'.map fun a => foldCase (nameOf a))) :
    unpaired names (Pairing.ofNames nameOf names entries') =
      unpaired names (Pairing.ofNames nameOf names entries) := by
  rw [unpaired_of_distinct distinctNames distinct,
    unpaired_of_distinct distinctNames (distinct.of_perm perm)]
  refine List.filter_congr fun name _ => ?_
  rw [decide_eq_decide, perm.mem_iff]

end Families

variable {m : Model n} {c c' : Collection}

theorem checkVectors_alike (distinctNames : DistinctIgnoringCase (vectorNames m))
    (distinct : DistinctIgnoringCase (c.vectors.map (·.name))) (rearranges : c.Rearranges c') :
    (checkVectors m c).Alike (checkVectors m c') := by
  have perm := rearranges.vectors.perm_map fun _ _ same => sameIgnoringCase_iff.mp same.1
  rw [checkVectors, checkVectors, unpaired_eq_of_perm distinctNames distinct perm]
  exact .refl _

theorem checkReferences_alike (distinctNames : DistinctIgnoringCase (referenceNames m))
    (distinct : DistinctIgnoringCase (c.references.map (·.name))) (rearranges : c.Rearranges c') :
    (checkReferences m c).Alike (checkReferences m c') := by
  have perm := rearranges.references.perm_map fun _ _ same => sameIgnoringCase_iff.mp same.1
  rw [checkReferences, checkReferences, unpaired_eq_of_perm distinctNames distinct perm]
  refine ⟨rfl, SameUpToOrder.append (.refl .same _) ?_⟩
  rw [Pairing.ofNames_of_distinct distinctNames distinct,
    Pairing.ofNames_of_distinct distinctNames (distinct.of_perm perm)]
  refine SameUpToOrder.map (fun r r' same => .reference same.1)
    (rearranges.references.filter fun r r' same => ?_)
  rw [sameIgnoringCase_iff.mp same.1]

end Conformance

/-- **Order and letter case of a schema do not matter** where names are distinct in more than
letter case: a model has the same errors, and the same warnings up to their order and the letter
case of what is missing. -/
theorem Model.report_of_rearranged {n : Nat} {types : Catalog n} {m : Model n} {c c' : Collection}
    (distinctFields : DistinctFields types m.propertyFields)
    (distinctReferences : DistinctIgnoringCase (Conformance.referenceNames m))
    (distinctVectors : DistinctIgnoringCase (Conformance.vectorNames m))
    (properties : DistinctProperties c.properties)
    (references : DistinctIgnoringCase (c.references.map (·.name)))
    (vectors : DistinctIgnoringCase (c.vectors.map (·.name))) (rearranges : c.Rearranges c') :
    (m.report types c).Alike (m.report types c') := by
  refine .append (.append ?_ ?_) ?_
  · exact Conformance.checkProperties_alike distinctFields properties rearranges.properties
  · exact Conformance.checkVectors_alike distinctVectors vectors rearranges
  · exact Conformance.checkReferences_alike distinctReferences references rearranges

/-! ### An excursion to a place

The schema comes back with the lists of both levels reversed and most names in another letter
case. -/

def excursion : Model 1 where
  typeName := "Excursion"
  fields := [
    { ident := "place", valueType := .nested ⟨0, Nat.one_pos⟩ },
    { ident := "title", valueType := .scalar .string },
    { ident := "guide", valueType := .scalar .uuid, reference := some { target := "Person" } },
    { ident := "map", valueType := .list (.scalar .float32), vector := some {} },
    { ident := "photo", valueType := .list (.scalar .float32), vector := some {} }]

def excursionSchema : Collection where
  name := "Excursion"
  properties := [
    { name := "place", kinds := [.object],
      nested := [.ofKind "area" .number, .ofKind "city" .int, .ofKind "river" .text] },
    .ofKind "title" .int, .ofKind "notes" .text]
  references := [⟨"guide", "Person", none⟩, ⟨"driver", "Person", none⟩]
  vectors := [.selfProvided "map", .selfProvided "sound"]

def excursionReturned : Collection where
  name := "EXCURSION"
  properties := [
    .ofKind "Notes" .text, .ofKind "Title" .int,
    { name := "PLACE", kinds := [.object],
      nested := [.ofKind "River" .text, .ofKind "CITY" .int, .ofKind "area" .number] }]
  references := [⟨"Driver", "Person", none⟩, ⟨"GUIDE", "Person", none⟩]
  vectors := [.selfProvided "sound", .selfProvided "Map"]

theorem excursion_rearranges : excursionSchema.Rearranges excursionReturned where
  properties := by
    refine .permuted (List.reverse_perm _).symm ?_
    refine .renamed (by decide) .nil (.renamed (by decide) .nil (.renamed (by decide) ?_ .nil))
    refine .permuted (List.reverse_perm _).symm ?_
    exact .renamed (by decide) .nil (.renamed (by decide) .nil (.renamed (by decide) .nil .nil))
  references :=
    ⟨_, (List.reverse_perm _).symm,
      .cons ⟨by decide, rfl⟩ (.cons ⟨by decide, rfl⟩ .nil)⟩
  vectors :=
    ⟨_, (List.reverse_perm _).symm,
      .cons ⟨by decide, rfl⟩ (.cons ⟨by decide, rfl⟩ .nil)⟩
  name := by decide
  others := rfl

theorem distinctFields_excursion : DistinctFields placeTypes excursion.propertyFields where
  names := by decide
  nested := by
    have levels : ∀ id, DistinctIgnoringCase
        ((placeTypes id).model.propertyFields.map Field.propertyName) := by decide
    intro id _
    exact levels id

theorem distinctProperties_excursionSchema : DistinctProperties excursionSchema.properties := by
  have flat : ∀ p ∈ [Property.ofKind "area" .number, .ofKind "city" .int, .ofKind "river" .text],
      p.nested = [] := by decide
  refine .intro (by decide) (List.forall_mem_cons.mpr ⟨?_, ?_⟩)
  · exact .intro (by decide) fun p mem => flat p mem ▸ .nil
  · have others : ∀ p ∈ [Property.ofKind "title" .int, .ofKind "notes" .text], p.nested = [] := by
      decide
    exact fun p mem => others p mem ▸ .nil

theorem report_of_rearranged_excursion :
    excursionSchema.Rearranges excursionReturned ∧
      (excursion.report placeTypes excursionSchema).Alike
        (excursion.report placeTypes excursionReturned) ∧
      (excursion.report placeTypes excursionReturned).errors.map (fun e => (e.path, e.kind)) =
        [("place.city", .typeMismatch), ("place.area", .noKind), ("title", .typeMismatch)] ∧
      (excursion.report placeTypes excursionSchema).warnings.map (·.path) =
        ["place.tags", "place.within", "place.river", "notes", "photo", "driver"] ∧
      (excursion.report placeTypes excursionReturned).warnings.map (·.path) =
        ["place.tags", "place.within", "place.River", "Notes", "photo", "Driver"] := by
  refine ⟨excursion_rearranges, ?_, ?_, ?_, ?_⟩
  · exact Model.report_of_rearranged distinctFields_excursion (by decide) (by decide)
      distinctProperties_excursionSchema (by decide) (by decide) excursion_rearranges
  · decide +kernel
  · decide +kernel
  · decide +kernel

end CollectionSchema
