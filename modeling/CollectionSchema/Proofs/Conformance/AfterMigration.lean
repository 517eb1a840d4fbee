import CollectionSchema.Proofs.Conformance.RoundTrip
import CollectionSchema.Proofs.Migration.Families

/-!
A model after a safe migration of its schema.

`report_after_safe_plan`: when the schema synthesized from a model is migrated by
a safe plan that leaves nested properties alone, the model still fits. It is
warned of nothing but what the plan adds: the added properties and then the added
references, in the order of the plan.

The plan compares names exactly and the check falls back on letter case, but a
safe plan keeps every name, so that the fallback never comes into play.
-/

namespace CollectionSchema

open Synthesis Conformance Migration

/-- Every object property that both schemas have has the same nested properties in
both. -/
def SameNested (current target : Collection) : Prop :=
  ∀ p ∈ current.properties, ∀ kind ∈ p.kind?, kind.isObject →
    ∀ q ∈ target.property? p.name, q.nested = p.nested

instance (current target : Collection) : Decidable (SameNested current target) := by
  unfold SameNested; infer_instance

variable {n : Nat} {types : Catalog n} {s : Synthesizer} {m : Model n}
  {current target : Collection}

section Safe

variable (declares : s.Declares types m current)
  (safe : (Plan.toReach (some current) target).isSafe)
include declares safe

/-- After a safe plan every property field finds a property that it fits. -/
theorem checkField_of_safe (nested : SameNested current target) {f : Field n}
    (mem : f ∈ m.propertyFields) {path : String} :
    checkField types [] path f (named (·.name) target.properties f.propertyName) = {} := by
  obtain ⟨p, found, built⟩ := named_of_forall₂ declares.properties
    (fun _ _ built => name_of_propertyOf built) (Collection.nodup_properties declares.unique) mem
  have memP := mem_of_named found
  obtain ⟨q, foundQ, kinds⟩ := named_of_safe declares.unique safe memP
  have sameNested : ∀ kind, p.kind? = some kind → kind.isObject → q.nested = p.nested :=
    fun kind primary object => nested p memP kind primary object q foundQ
  rw [← name_of_propertyOf built, foundQ, checkField_congr kinds sameNested,
    checkField_of_propertyOf built]

/-- The report of a model after a safe plan: what the target has beyond the current
schema is missing from the model, and nothing else is found. -/
theorem report_of_safe (hookFree : m.HookFree) (unique : target.nameClashes = [])
    (nested : SameNested current target) :
    m.report types target =
      { warnings :=
          (unmatched (·.name) current.properties target.properties).map
              (fun p => missingField p.name p.name) ++
            (unmatched (·.name) current.references target.references).map
              fun r => missingReference r.name } := by
  obtain ⟨properties, references, vectors, -, -⟩ := isSafe_toReach_iff.mp safe
  have fieldNames := declares.propertyNames_eq
  have referenceNames := declares.referenceNames_eq
  have vectorNames := declares.vectorNames_eq hookFree
  have fields : ∀ f ∈ m.propertyFields, f.propertyName ∈ target.properties.map (·.name) := by
    intro f mem
    obtain ⟨p, memP, same⟩ := List.mem_map.mp (fieldNames ▸ List.mem_map_of_mem mem)
    exact same ▸ unmatched_eq_nil_iff.mp properties p memP
  have level : checkProperties types [] "" m.propertyFields target.properties =
      { warnings :=
          (unmatched (·.name) current.properties target.properties).map
            fun p => missingField p.name p.name } := by
    rw [checkProperties_eq (fieldNames ▸ Collection.nodup_properties declares.unique)
      (Collection.nodup_properties unique) fields, Report.join_eq_empty, Report.empty_append,
      unmatched_eq_filter fieldNames]
    · rfl
    · intro r among
      obtain ⟨f, mem, rfl⟩ := List.mem_map.mp among
      exact checkField_of_safe declares safe nested mem
  have named : checkVectors m target = {} := by
    refine checkVectors_eq (vectorNames ▸ Collection.nodup_vectors declares.unique)
      (Collection.nodup_vectors unique) fun name mem => ?_
    obtain ⟨v, memV, rfl⟩ := List.mem_map.mp (vectorNames ▸ mem)
    exact unmatched_eq_nil_iff.mp vectors v memV
  have crossed : checkReferences m target =
      { warnings :=
          (unmatched (·.name) current.references target.references).map
            fun r => missingReference r.name } := by
    rw [unmatched_eq_filter referenceNames]
    refine checkReferences_eq (referenceNames ▸ Collection.nodup_references declares.unique)
      (Collection.nodup_references unique) fun name mem => ?_
    obtain ⟨r, memR, rfl⟩ := List.mem_map.mp (referenceNames ▸ mem)
    exact unmatched_eq_nil_iff.mp references r memR
  rw [Model.report, level, named, crossed, Report.append_empty]
  rfl

end Safe

/-- **A safe migration keeps the old model valid**: checked against the target, a
model without hooks has no errors, no extra fields and no unknown vectors, and it
is warned of exactly the properties and then the references that the plan adds,
in the order of the plan. -/
theorem report_after_safe_plan (hookFree : m.HookFree) (built : s.synthesize types m = .ok current)
    (unique : target.nameClashes = []) (safe : (Plan.toReach (some current) target).isSafe)
    (nested : SameNested current target) :
    (m.report types target).errors = [] ∧
      (m.report types target).warningsOf .extraProperty = [] ∧
      (m.report types target).warningsOf .unknownVector = [] ∧
      ((m.report types target).warningsOf .missingProperty).map (·.path) =
        ((Plan.toReach (some current) target).subjects .addProperty ++
          (Plan.toReach (some current) target).subjects .addReference).map ChangeSubject.name := by
  have declares := Synthesizer.synthesize_declares hookFree.1 built
  rw [report_of_safe declares safe hookFree unique nested, subjects_addProperty,
    subjects_addReference]
  have kinds : ∀ kind, kind ≠ .missingProperty →
      Report.warningsOf
        { warnings :=
            (unmatched (·.name) current.properties target.properties).map
                (fun p => missingField p.name p.name) ++
              (unmatched (·.name) current.references target.references).map
                fun r => missingReference r.name } kind = [] := by
    intro kind other
    refine List.filter_eq_nil_iff.mpr fun w mem same => other (beq_iff_eq.mp same ▸ ?_)
    rcases List.mem_append.mp mem with mem | mem
    · obtain ⟨p, -, rfl⟩ := List.mem_map.mp mem
      rfl
    · obtain ⟨r, -, rfl⟩ := List.mem_map.mp mem
      rfl
  refine ⟨rfl, kinds _ (by decide), kinds _ (by decide), ?_⟩
  simp [Report.warningsOf, List.filter_map, Function.comp_def, missingField, missingReference,
    ChangeSubject.name]

/-- The thread with a property that differs from two others in letter case only,
and with one more reference. -/
def threadTarget : Collection :=
  { threadSchema with
    description := some "Threads"
    properties := .ofKind "TITLE" .text :: threadSchema.properties
    references := threadSchema.references ++ [⟨"editor", "Author", none⟩] }

theorem report_thread_after_plan :
    thread.HookFree ∧ ({} : Synthesizer).synthesize threadTypes thread = .ok threadSchema ∧
      threadTarget.nameClashes = [] ∧
      (Plan.toReach (some threadSchema) threadTarget).isSafe ∧
      SameNested threadSchema threadTarget ∧
      ((thread.report threadTypes threadTarget).warningsOf .missingProperty).map (·.path) =
        ["TITLE", "editor"] := by
  have hookFree : thread.HookFree := by decide
  have unique : threadTarget.nameClashes = [] := by decide
  have safe : (Plan.toReach (some threadSchema) threadTarget).isSafe := by decide
  have nested : SameNested threadSchema threadTarget := by decide
  have report := report_after_safe_plan hookFree synthesize_thread unique safe nested
  exact ⟨hookFree, synthesize_thread, unique, safe, nested, report.2.2.2.trans (by decide)⟩

end CollectionSchema
