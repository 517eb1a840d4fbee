import CollectionSchema.Proofs.Synthesis.Failure

/-!
The integer settings of a collection.

An integer is -1, which leaves the setting to the server, or fits in 32 bits. Synthesis looks at
the range twice: for all settings together before anything else, and again for each one where it
is narrowed. The two agree, so that the second look finds nothing.

* `violations_eq`: what is refused at first are the settings out of range, and all of them.
* `failsFor_synthesize`: a model whose settings are in range is refused for something else.
* `Synthesizer.settings_checked`: both together, and what the settings of a schema stand for.
-/

namespace CollectionSchema

instance (value : Int) : Decidable (SettingFits value) :=
  inferInstanceAs (Decidable (value = -1 ∨ 0 ≤ value ∧ value ≤ 4294967295))

/-! ### Settings out of range -/

namespace CollectionDirective

/-- The integer settings, each with the path that it is reported under. -/
def settings (d : CollectionDirective) : List (String × Int) := [
  ("replication_factor", d.replicationFactor),
  ("sharding.desired_count", d.sharding.desiredCount),
  ("sharding.virtual_per_physical", d.sharding.virtualPerPhysical)]

/-- What is reported of the settings out of range. -/
def outOfRange (d : CollectionDirective) : List Violation :=
  (d.settings.filter fun setting => ¬ SettingFits setting.2).map fun setting =>
    ⟨setting.1, settingMessage setting.2⟩

variable {d : CollectionDirective}

theorem outOfRange_eq_nil_iff :
    d.outOfRange = [] ↔ ∀ setting ∈ d.settings, SettingFits setting.2 := by
  rw [outOfRange, List.map_eq_nil_iff, List.filter_eq_nil_iff]
  simp

/-- The settings that are refused are those out of range, in their order. -/
theorem violations_eq (d : CollectionDirective) : d.violations = d.outOfRange := by
  have each (setting : String × Int) : checkSetting setting.1 setting.2 =
      ([setting].filter fun setting => ¬ SettingFits setting.2).map fun setting =>
        ⟨setting.1, settingMessage setting.2⟩ := by
    by_cases fits : SettingFits setting.2
    · simp [checkSetting, fits, Synthesis.validSetting_iff]
    · simp [checkSetting, fits, Synthesis.validSetting_iff]
  rw [violations, each (_, _), each (_, _), each (_, _), ← List.map_append, ← List.map_append,
    ← List.filter_append, ← List.filter_append]
  rfl

end CollectionDirective

namespace Synthesis

variable {d : CollectionDirective}

theorem checkSettings_of_outOfRange {setting : String × Int} (mem : setting ∈ d.settings)
    (refused : ¬ SettingFits setting.2) :
    checkSettings d = .error (.settingsOutOfRange d.outOfRange) := by
  rw [checkSettings, d.violations_eq]
  cases found : d.outOfRange with
  | nil => exact absurd (CollectionDirective.outOfRange_eq_nil_iff.mp found setting mem) refused
  | cons _ _ => rfl

theorem checkSettings_of_fit (fit : ∀ setting ∈ d.settings, SettingFits setting.2) :
    checkSettings d = .ok () := by
  rw [checkSettings, d.violations_eq, CollectionDirective.outOfRange_eq_nil_iff.mpr fit]

end Synthesis

/-! ### What settings stand for -/

/-- `ReadsAs value setting`: the setting is none for -1, and else the same number. -/
structure ReadsAs (value : Int) (setting : Option UInt32) : Prop where
  none_iff : setting = none ↔ value = -1
  number : ∀ x, setting = some x → (x.toNat : Int) = value

theorem readsAs_setting? {value : Int} (fits : SettingFits value) :
    ReadsAs value (setting? value) := by
  unfold setting?
  by_cases left : value = leftToServer
  · rw [if_pos left]
    exact ⟨iff_of_true rfl left, fun x found => by cases found⟩
  · rw [if_neg left]
    refine ⟨iff_of_false (Option.some_ne_none _) left, fun x found => ?_⟩
    obtain ⟨nonneg, le⟩ := fits.resolve_left left
    obtain rfl := Option.some.inj found
    have small : value.toNat < 2 ^ 32 := by omega
    rw [UInt32.toNat_ofNat_of_lt' small]
    omega

/-- The sharding of a collection is left out when nothing is given, and nothing is lost by it. -/
theorem sharding_unlessEmpty (s : Sharding) :
    let kept := if s.isEmpty then none else some s
    (kept = none ↔ s.desiredCount = none ∧ s.virtualPerPhysical = none ∧ s.key = none) ∧
      kept.bind Sharding.desiredCount = s.desiredCount ∧
      kept.bind Sharding.virtualPerPhysical = s.virtualPerPhysical ∧
      kept.bind Sharding.key = s.key := by
  have nothing : s.isEmpty ↔
      s.desiredCount = none ∧ s.virtualPerPhysical = none ∧ s.key = none := by
    simp [Sharding.isEmpty, and_assoc]
  intro kept
  by_cases empty : s.isEmpty
  · obtain ⟨desired, virtual, key⟩ := nothing.mp empty
    simp [kept, empty, desired, virtual, key]
  · have given : ¬ (s.desiredCount = none ∧ s.virtualPerPhysical = none ∧ s.key = none) :=
      fun none => empty (nothing.mpr none)
    simp [kept, empty, given]

/-- `c.HasSettings d`: the integer settings of the collection are what those of the directive
stand for, and there is no sharding when nothing is said of it. -/
structure Collection.HasSettings (c : Collection) (d : CollectionDirective) : Prop where
  replicationFactor : ReadsAs d.replicationFactor c.replication.factor
  desiredCount : ReadsAs d.sharding.desiredCount (c.sharding.bind Sharding.desiredCount)
  virtualPerPhysical :
    ReadsAs d.sharding.virtualPerPhysical (c.sharding.bind Sharding.virtualPerPhysical)
  sharding_eq_none_iff : c.sharding = none ↔
    d.sharding.desiredCount = -1 ∧ d.sharding.virtualPerPhysical = -1 ∧ d.sharding.key = none

theorem hasSettings_of_applySettings {d : CollectionDirective} {c c' : Collection}
    (applied : Synthesis.applySettings d c = .ok c') : c'.HasSettings d := by
  obtain ⟨checked, rfl⟩ := Synthesis.applySettings_eq_ok_iff.mp applied
  obtain ⟨factor, desired, virtual⟩ := Synthesis.checkSettings_eq_ok_iff.mp checked
  obtain ⟨none_iff, desired_eq, virtual_eq, -⟩ := sharding_unlessEmpty
    ⟨setting? d.sharding.desiredCount, setting? d.sharding.virtualPerPhysical, d.sharding.key⟩
  refine ⟨readsAs_setting? factor, ?_, ?_, none_iff.trans ?_⟩
  · exact desired_eq ▸ readsAs_setting? desired
  · exact virtual_eq ▸ readsAs_setting? virtual
  · rw [(readsAs_setting? desired).none_iff, (readsAs_setting? virtual).none_iff]

/-! ### The schema of a model -/

namespace Synthesizer

open Synthesis

variable {n : Nat} {s : Synthesizer} {types : Catalog n} {m : Model n}

/-- Once the settings have been checked, synthesis fails for other concerns only: the second look
at each setting finds it in range. -/
theorem failsFor_synthesize (checked : checkSettings m.directive = .ok ()) :
    FailsFor (· ≠ .settings) (s.synthesize types m) := by
  refine FailsFor.bind ?_ fun c _ => failsFor_customizeCollection (by decide) (by decide)
  rw [declared, checked]
  refine FailsFor.bind (.ok ()) fun _ _ => ?_
  refine FailsFor.bind (.mapM fun f _ => ?_) fun members _ => ?_
  · exact failsFor_memberOf (by decide) fun _ =>
      failsFor_propertyOf (by decide) (by decide) (by decide)
  refine (failsFor_requireUnique (by decide)).bind fun _ _ => ?_
  refine (FailsFor.mapM fun fd _ =>
    failsFor_vectorOf (by decide) (by decide) (by decide)).bind fun vectors _ => ?_
  refine (failsFor_requireUnique (by decide)).bind fun _ _ => ?_
  rw [applySettings_eq_ok_iff.mpr ⟨checked, rfl⟩]
  exact .ok _

/-- A setting out of range is what is wrong with a model, whatever else is. -/
theorem synthesize_of_outOfRange {setting : String × Int} (mem : setting ∈ m.directive.settings)
    (refused : ¬ SettingFits setting.2) :
    s.synthesize types m = .error (.settingsOutOfRange m.directive.outOfRange) := by
  rw [synthesize, declared, checkSettings_of_outOfRange mem refused]
  rfl

theorem hasSettings_of_synthesize {c : Collection} (unhooked : m.directive.hook = none)
    (built : s.synthesize types m = .ok c) : c.HasSettings m.directive := by
  obtain ⟨declared, done, customized⟩ := bind_eq_ok_iff.mp built
  rw [customizeCollection, unhooked] at customized
  obtain rfl := Except.ok.inj customized
  simp only [Synthesizer.declared, bind_eq_ok_iff] at done
  obtain ⟨_, -, _, -, _, -, _, -, _, -, applied⟩ := done
  exact hasSettings_of_applySettings applied

/-- **Settings are checked once and for all.** If an integer setting is neither -1 nor fits in 32
bits, then this is what synthesis reports, whatever else is wrong: just the settings out of range,
and all of them. If all are in range, synthesis never reports a setting, neither at first nor where
it is narrowed. The settings of a schema that no hook changed are the numbers that were given, with
none for -1, and its sharding is left out just when nothing was said of it. -/
theorem settings_checked (s : Synthesizer) (types : Catalog n) (m : Model n) :
    ((∃ setting ∈ m.directive.settings, ¬ SettingFits setting.2) →
      s.synthesize types m = .error (.settingsOutOfRange m.directive.outOfRange)) ∧
    ((∀ setting ∈ m.directive.settings, SettingFits setting.2) →
      (∀ violations, s.synthesize types m ≠ .error (.settingsOutOfRange violations)) ∧
      (∀ setting value, s.synthesize types m ≠ .error (.settingOutOfRange setting value))) ∧
    (m.directive.hook = none → ∀ c, s.synthesize types m = .ok c →
      c.HasSettings m.directive) := by
  refine ⟨?_, fun fit => ?_, fun unhooked c built => hasSettings_of_synthesize unhooked built⟩
  · rintro ⟨setting, mem, refused⟩
    exact synthesize_of_outOfRange mem refused
  · have other : FailsFor (· ≠ .settings) (s.synthesize types m) :=
      failsFor_synthesize (checkSettings_of_fit fit)
    constructor
    · intro violations reported
      exact other _ reported rfl
    · intro setting value reported
      exact other _ reported rfl

end Synthesizer

/-! ### A warehouse

The type of its aisles may be one that has no kind. -/

def warehouseTypes : Catalog 0 := fun id => id.elim0

def warehouse (aisle : ValueType 0) (replicationFactor desiredCount virtualPerPhysical : Int) :
    Model 0 where
  typeName := "Warehouse"
  directive := { replicationFactor, sharding := { desiredCount, virtualPerPhysical } }
  fields := [{ ident := "aisle", valueType := aisle }]

def warehouseSchema : Collection where
  name := "Warehouse"
  properties := [.ofKind "aisle" .text]
  replication := { factor := some 4294967295 }
  sharding := some { desiredCount := some 0 }

theorem settings_checked_warehouse :
    let synthesize := ({} : Synthesizer).synthesize warehouseTypes
    synthesize (warehouse (.foreign "Aisle") (-2) 4294967296 7) =
        .error (.settingsOutOfRange [
          ⟨"replication_factor", settingMessage (-2)⟩,
          ⟨"sharding.desired_count", settingMessage 4294967296⟩]) ∧
      (∀ setting value, synthesize (warehouse (.foreign "Aisle") 4294967295 0 (-1)) ≠
        .error (.settingOutOfRange setting value)) ∧
      synthesize (warehouse (.scalar .string) 4294967295 0 (-1)) = .ok warehouseSchema ∧
      warehouseSchema.HasSettings (warehouse (.scalar .string) 4294967295 0 (-1)).directive := by
  intro synthesize
  have built : synthesize (warehouse (.scalar .string) 4294967295 0 (-1)) =
      .ok warehouseSchema := by
    decide +kernel
  have checked (aisle : ValueType 0) (factor desired virtual : Int) :=
    Synthesizer.settings_checked {} warehouseTypes (warehouse aisle factor desired virtual)
  refine ⟨?_, ?_, built, ?_⟩
  · exact (checked _ (-2) 4294967296 7).1 ⟨_, .head _, by decide⟩
  · exact ((checked _ 4294967295 0 (-1)).2.1 (by decide)).2
  · exact (checked _ 4294967295 0 (-1)).2.2 rfl warehouseSchema built

end CollectionSchema
