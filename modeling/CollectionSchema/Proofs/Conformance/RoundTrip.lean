import CollectionSchema.Proofs.Conformance.Exact
import CollectionSchema.Proofs.Synthesis.Unfolding

/-!
A model fits the schema that is synthesized from it.

* `checkField_of_propertyOf`: a field is checked against its own property without
  findings, under any types that are under way. Synthesis bounds the depth and
  conformance does not; both stop at the same types, since a property whose
  nested type was under way has no nested properties.
* `report_synthesized`: the whole report is empty.
-/

namespace CollectionSchema

variable {n : Nat} {types : Catalog n}

namespace Conformance

open Synthesis

/-- A level is clean when each field stands against a clean property of its name. -/
theorem checkProperties_eq_empty {entered : List String} {parent : String}
    {fields : List (Field n)} {ps : List Property} (distinct : (ps.map (·.name)).Nodup)
    (clean : List.Forall₂
      (fun f p => p.name = f.propertyName ∧ ∀ path, checkField types entered path f (some p) = {})
      fields ps) :
    checkProperties types entered parent fields ps = {} := by
  have names : ps.map (·.name) = fields.map Field.propertyName :=
    map_eq_of_forall₂ clean fun _ _ _ r => r.1
  have subset : ∀ f ∈ fields, f.propertyName ∈ ps.map (·.name) := fun f mem =>
    names ▸ List.mem_map_of_mem mem
  have found : Report.join (fields.map fun f =>
      checkField types entered (pathTo parent f.propertyName) f
        (named (·.name) ps f.propertyName)) = {} := by
    refine Report.join_eq_empty fun r among => ?_
    obtain ⟨f, mem, rfl⟩ := List.mem_map.mp among
    obtain ⟨p, look, -, empty⟩ := named_of_forall₂ clean (fun _ _ r => r.1) distinct mem
    rw [look, empty]
  rw [checkProperties_eq (names ▸ distinct) distinct subset, found, filter_unnamed_eq_nil names]
  rfl

/-- **A field fits its own property**, whatever types are under way. -/
theorem checkField_of_propertyOf {maxDepth : Nat} {typeName : String} {entered : List String}
    {f : Field n} {p : Property} {path : String}
    (built : propertyOf maxDepth types typeName entered f = .ok p) :
    checkField types entered path f (some p) = {} := by
  induction entered using types.entered_induction generalizing typeName f p path with
  | step entered ih =>
      obtain ⟨kind, nested, settled, rfl, inner⟩ := propertyOf_eq_ok_iff.mp built
      obtain ⟨hasKind, -⟩ := settleKind_eq_ok_iff.mp settled
      rw [checkField]
      simp only [hasKind, describe_kind?, describe_nested, ne_eq, not_true_eq_false, if_false]
      cases object : kind.isObject with
      | false => simp
      | true =>
          simp only [object, if_true] at inner
          obtain ⟨id, refers, inner⟩ := nestedPropertiesOf_eq_ok_iff.mp inner
          by_cases under : (types id).typeName ∈ entered
          · -- The type is under way on both sides, and nothing was built for it.
            rw [if_pos under] at inner
            simp [inner]
          · rw [if_neg under] at inner
            obtain ⟨-, distinct, fields⟩ := inner
            have level : checkProperties types ((types id).typeName :: entered) path
                (types id).model.propertyFields nested = {} :=
              checkProperties_eq_empty distinct
                (fields.imp fun g q sub => ⟨name_of_propertyOf sub, fun _ => ih id under sub⟩)
            simp [refers, under, level]

end Conformance

namespace Model

open Synthesis Conformance

variable {s : Synthesizer} {m : Model n} {c : Collection}

/-- **Round trip**: a model without hooks fits the schema synthesized from it, with
neither errors nor warnings at any depth. -/
theorem report_synthesized (hookFree : m.HookFree) (built : s.synthesize types m = .ok c) :
    m.report types c = {} := by
  have declares := Synthesizer.synthesize_declares hookFree.1 built
  have unique := declares.unique
  have references := declares.referenceNames_eq
  have vectors := declares.vectorNames_eq hookFree
  have level : checkProperties types [] "" m.propertyFields c.properties = {} :=
    checkProperties_eq_empty (Collection.nodup_properties unique)
      (declares.properties.imp fun _ _ sub =>
        ⟨name_of_propertyOf sub, fun _ => checkField_of_propertyOf sub⟩)
  have named : checkVectors m c = {} :=
    checkVectors_eq (vectors ▸ Collection.nodup_vectors unique)
      (Collection.nodup_vectors unique) (fun name mem => vectors ▸ mem)
  have crossed : checkReferences m c = {} := by
    rw [checkReferences_eq (references ▸ Collection.nodup_references unique)
      (Collection.nodup_references unique) (fun name mem => references ▸ mem),
      filter_unnamed_eq_nil references]
    rfl
  rw [report, level, named, crossed]
  rfl

end Model

/-! ### A thread of comments

Two nested types go by one name, so that one is not entered inside the other, and
two properties differ in letter case only. -/

/-- A comment with replies, and a reply that goes by the name of a comment. -/
def threadTypes : Catalog 2
  | 0 =>
    { typeName := "Comment"
      model :=
        { typeName := "Comment"
          fields := [
            { ident := "text", valueType := .scalar .string },
            { ident := "replies", valueType := .list (.nested 1) }] } }
  | 1 =>
    { typeName := "Comment"
      model :=
        { typeName := "Reply"
          fields := [{ ident := "body", valueType := .scalar .string }] } }

def thread : Model 2 where
  typeName := "Thread"
  fields := [
    { ident := "title", valueType := .scalar .string },
    { ident := "heading", valueType := .scalar .string, property := { name := some "Title" } },
    { ident := "first", valueType := .nested 0 },
    { ident := "last", valueType := .optional (.nested 1) },
    { ident := "author", valueType := .scalar .uuid, reference := some { target := "Author" } },
    { ident := "title_vector", valueType := .list (.scalar .float32), vector := some {} }]

def threadSchema : Collection where
  name := "Thread"
  properties := [
    .ofKind "title" .text,
    .ofKind "Title" .text,
    { name := "first", kinds := [.object],
      nested := [.ofKind "text" .text, .ofKind "replies" .objectArray] },
    { name := "last", kinds := [.object], nested := [.ofKind "body" .text] }]
  references := [⟨"author", "Author", none⟩]
  vectors := [.selfProvided "titleVector"]

theorem synthesize_thread :
    ({} : Synthesizer).synthesize threadTypes thread = .ok threadSchema := by
  decide +kernel

theorem report_thread :
    thread.HookFree ∧ ({} : Synthesizer).synthesize threadTypes thread = .ok threadSchema ∧
      thread.report threadTypes threadSchema = {} :=
  ⟨by decide, synthesize_thread, Model.report_synthesized (by decide) synthesize_thread⟩

end CollectionSchema
