import CollectionSchema.Proofs.Conformance.Limits
import CollectionSchema.Proofs.Synthesis.Limits

/-!
Recursion through nested types ends, however the types nest each other.

Synthesis and checks both go from a type to the types that it nests, and both stop at a type whose
name is under way. `Model.recursion_ends` puts the bounds on the two together: the number of names
of nested types that a model can come by bounds both, and so does the limit of synthesis on the one
side and the depth of the schema on the other.
-/

namespace CollectionSchema

open Conformance

/-- **Recursion ends and is bounded.** Synthesis and checks go through nested types without two of
the same name under way and without giving up, when no more of them may be entered one inside the
other than the model has names of nested types to come by, and than synthesis allows or properties
of the schema are nested. So no chain of properties in a schema made without a hook is longer than
that, and synthesis only finds a model nested too deeply when it allows fewer types than there are
names. What a check finds, it finds at levels that it comes to by paths no longer than that. -/
theorem Model.recursion_ends {n : Nat} (s : Synthesizer) (types : Catalog n) (m : Model n)
    (c : Collection) :
    let names := (nestedNames types m.propertyFields).card
    (s.synthesizeWithin (min s.config.maxDepth names) types m).run = some (s.synthesize types m) ∧
      (m.directive.hook = none → ∀ made, s.synthesize types m = .ok made →
        ∀ p ∈ made.properties, ∀ chain, Property.IsNestedChain (p :: chain) →
          chain.length ≤ min s.config.maxDepth names) ∧
      (names ≤ s.config.maxDepth → ∀ field limit,
        s.synthesize types m ≠ .error (.tooDeep field limit)) ∧
      m.reportWithin (min c.nestingDepth names) types c = some (m.report types c) ∧
      (∀ l ∈ (m.comparison c).all types, l.entered.Nodup ∧ l.path.length = l.entered.length ∧
        l.path.length ≤ min c.nestingDepth names) ∧
      (∀ e ∈ (m.report types c).errors, ∃ l ∈ (m.comparison c).all types, ∃ f p,
        (f, some p) ∈ l.pairs ∧ Misfit types (l.textOf f.propertyName) f p e) ∧
      ∀ w ∈ (m.report types c).warnings, (∃ l ∈ (m.comparison c).all types, w ∈ l.warnings) ∨
        w ∈ (checkVectors m c).warnings ∨ w ∈ (checkReferences m c).warnings := by
  intro names
  have ends := s.synthesizeWithin_ends types m (Nat.le_refl _)
  refine ⟨ends.result, ?_, ?_, m.reportWithin_eq types c (Nat.le_refl _), ?_, ?_, ?_⟩
  · intro unhooked made built p mem chain nested
    have depth := Synthesizer.nestingDepth_of_synthesize unhooked built
    exact (Property.length_le_depth nested).trans (Collection.nestingDepth_le_iff.mp depth p mem)
  · intro allowed field limit tooDeep
    exact Nat.not_lt.mpr allowed (ends.tooDeep field limit tooDeep)
  · intro l mem
    have bounded := (Comparison.Bounded.start types m c).of_mem_all mem
    exact ⟨bounded.underWay.nodup, bounded.path, bounded.length_le⟩
  · intro e mem
    exact m.exists_misfit_of_mem_errors_report types c mem
  · intro w mem
    exact m.warning_of_mem_warnings_report types c mem

/-! ### A drive that is checked in depth

Folders and files nest each other, and the size of a version is three types deep. -/

theorem card_nestedNames_drive : (nestedNames driveTypes drive.propertyFields).card = 3 := by
  have folder : Nests driveTypes drive.propertyFields 0 :=
    .direct (List.mem_filter.mpr ⟨.tail _ (.head _), rfl⟩) rfl
  have file : Nests driveTypes drive.propertyFields 1 :=
    .inner folder (List.mem_filter.mpr ⟨.tail _ (.tail _ (.head _)), rfl⟩) rfl
  have version : Nests driveTypes drive.propertyFields 2 :=
    .inner file (List.mem_filter.mpr ⟨.tail _ (.head _), rfl⟩) rfl
  have reached : ({"Folder", "File", "Version"} : Finset String) ⊆
      nestedNames driveTypes drive.propertyFields := by
    intro name mem
    simp only [Finset.mem_insert, Finset.mem_singleton] at mem
    rcases mem with rfl | rfl | rfl
    · exact mem_nestedNames_iff.mpr ⟨0, folder, rfl⟩
    · exact mem_nestedNames_iff.mpr ⟨1, file, rfl⟩
    · exact mem_nestedNames_iff.mpr ⟨2, version, rfl⟩
  exact Nat.le_antisymm (card_nestedNames_le ..) (Finset.card_le_card reached)

/-- A schema in which sizes are texts. -/
def sizedByText : Collection where
  name := "Drive"
  properties := [
    { name := "root", kinds := [.object],
      nested := [
        { name := "files", kinds := [.objectArray],
          nested := [
            { name := "versions", kinds := [.objectArray], nested := [.ofKind "size" .text] }] }] }]

theorem recursion_ends_drive :
    (({} : Synthesizer).synthesizeWithin 3 driveTypes drive).run = some (.ok driveSchema) ∧
      (({} : Synthesizer).synthesizeWithin 2 driveTypes drive).run = none ∧
      (∀ p ∈ driveSchema.properties, ∀ chain, Property.IsNestedChain (p :: chain) →
        chain.length ≤ 3) ∧
      (∀ field limit, ({} : Synthesizer).synthesize driveTypes drive ≠
        .error (.tooDeep field limit)) ∧
      drive.reportWithin 3 driveTypes sizedByText = some (drive.report driveTypes sizedByText) ∧
      drive.reportWithin 2 driveTypes sizedByText = none ∧
      (drive.report driveTypes sizedByText).errors.map (·.path) = ["root.files.versions.size"] ∧
      ((drive.comparison sizedByText).all driveTypes).map (·.path) =
        [[], ["root"], ["root", "files"], ["root", "files", "versions"]] ∧
      ∀ l ∈ (drive.comparison sizedByText).all driveTypes, l.entered.Nodup ∧ l.path.length ≤ 3 := by
  have depth : sizedByText.nestingDepth = 3 := by decide +kernel
  have allowed : min ({} : Synthesizer).config.maxDepth 3 = 3 := rfl
  obtain ⟨ends, chains, decided, checked, levels, -, -⟩ :=
    Model.recursion_ends {} driveTypes drive sizedByText
  rw [card_nestedNames_drive, allowed] at chains ends
  rw [card_nestedNames_drive] at decided
  rw [card_nestedNames_drive, depth] at checked levels
  refine ⟨?_, ?_, ?_, decided (by decide), checked, ?_, ?_, ?_, ?_⟩
  · rw [ends, synthesize_drive]
  · decide +kernel
  · exact chains rfl driveSchema synthesize_drive
  · decide +kernel
  · decide +kernel
  · decide +kernel
  · intro l mem
    obtain ⟨nodup, -, bound⟩ := levels l mem
    exact ⟨nodup, bound⟩

end CollectionSchema
