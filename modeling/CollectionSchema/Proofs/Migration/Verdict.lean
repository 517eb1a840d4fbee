import CollectionSchema.Proofs.Migration.Families

/-!
The verdict of a plan.

Whether a change keeps stored data is settled where the change is made, and the
text of a change that does not begins with a marker.

* `judged_of_mem`: in every plan the verdict on a change, the marker in its text
  and what its kind loses agree, whatever names and descriptions contain.
* `isSafe_iff_kept`: a plan is safe exactly when its target keeps what the current
  schema has, names being allowed to repeat.
* `verdict_exact`: both, and hence safe plans compose.
-/

namespace CollectionSchema

namespace Change

/-- The text of the change begins with the marker of breaking changes. -/
def Marked (ch : Change) : Prop :=
  "BREAKING".toList <+: ch.description.toList

instance (ch : Change) : Decidable ch.Marked :=
  inferInstanceAs (Decidable (_ <+: _))

theorem not_marked_of_head {ch : Change} (other : ch.description.toList.head? ≠ some 'B') :
    ¬ ch.Marked := by
  rintro ⟨rest, same⟩
  rw [← same] at other
  exact other rfl

theorem marked_breaking (kind : ChangeKind) (text : String) (oldValue newValue : Option Json)
    (subject : Option ChangeSubject) : (breaking kind text oldValue newValue subject).Marked := by
  simp [Marked, breaking, breakingMarker]

end Change

/-- A change of the kind loses stored data: removals and changes of type always, and
a change of the tenants where it switches them on or off. -/
def ChangeKind.Loses (current : Option Collection) (target : Collection) : ChangeKind → Prop
  | .removeProperty | .removeReference | .removeVector | .modifyPropertyType => True
  | .updateMultiTenancy =>
    ∃ c ∈ current, c.multiTenancy.enabled ≠ target.multiTenancy.enabled
  | _ => False

namespace Migration

/-! ### The verdict on a change -/

/-- The verdict on a change agrees with its text and with its kind. -/
structure Judged (current : Option Collection) (target : Collection) (ch : Change) : Prop where
  marked : ch.isSafe = false ↔ ch.Marked
  loses : ch.isSafe = false ↔ ch.kind.Loses current target

section Changes

variable {current : Option Collection} {target : Collection} {kind : ChangeKind} {text : String}
  {oldValue newValue : Option Json} {subject : Option ChangeSubject}

theorem judged_breaking (loses : kind.Loses current target) :
    Judged current target (.breaking kind text oldValue newValue subject) where
  marked := iff_of_true rfl (Change.marked_breaking ..)
  loses := iff_of_true rfl loses

theorem judged_safe (other : text.toList.head? ≠ some 'B') (keeps : ¬ kind.Loses current target) :
    Judged current target (.safe kind text oldValue newValue subject) where
  marked := iff_of_false nofun (Change.not_marked_of_head other)
  loses := iff_of_false nofun keeps

theorem judged_addProperty (p : Property) : Judged current target (addProperty p) :=
  judged_safe (by simp [toString]) not_false

theorem judged_addReference (r : Reference) : Judged current target (addReference r) :=
  judged_safe (by simp [toString]) not_false

theorem judged_addVector (v : NamedVector) : Judged current target (addVector v) :=
  judged_safe (by simp [toString]) not_false

end Changes

section Families

variable {current target : Collection} {ch : Change}

theorem judged_descriptionChanges (mem : ch ∈ descriptionChanges current target) :
    Judged (some current) target ch := by
  unfold descriptionChanges at mem
  split_ifs at mem
  · rw [List.mem_singleton.mp mem]
    exact judged_safe (by simp [toString]) not_false
  · cases mem

theorem judged_replicationChanges (mem : ch ∈ replicationChanges current target) :
    Judged (some current) target ch := by
  unfold replicationChanges at mem
  split at mem
  · cases mem
  · split_ifs at mem
    · rw [List.mem_singleton.mp mem]
      exact judged_safe (by simp [toString]) not_false
    · cases mem

/-- Of the changes of the tenants the one that switches them is breaking, and the
one that is made when they are not switched is not. -/
theorem judged_tenantChanges (mem : ch ∈ tenantChanges current target) :
    Judged (some current) target ch := by
  unfold tenantChanges at mem
  dsimp only at mem
  by_cases switched : current.multiTenancy.enabled ≠ target.multiTenancy.enabled
  · rw [if_pos switched] at mem
    rw [List.mem_singleton.mp mem]
    exact judged_breaking ⟨current, rfl, switched⟩
  · have keeps : ¬ ChangeKind.updateMultiTenancy.Loses (some current) target := by
      rintro ⟨c, same, differs⟩
      cases same
      exact switched differs
    rw [if_neg switched] at mem
    split_ifs at mem
    · rw [List.mem_singleton.mp mem]
      exact judged_safe (by simp) keeps
    · cases mem

/-- The changes that every part of a plan consists of are judged rightly. -/
theorem judged_familyChanges {family : ChangeFamily}
    (mem : ch ∈ familyChanges current target family) : Judged (some current) target ch := by
  cases family with
  | description => exact judged_descriptionChanges mem
  | properties =>
      exact propertyChanges_cases judged_addProperty (fun _ => judged_breaking trivial)
        (fun _ _ => judged_breaking trivial)
        (fun _ _ => judged_safe (by simp [toString]) not_false) mem
  | references =>
      exact referenceChanges_cases judged_addReference (fun _ => judged_breaking trivial)
        (fun _ _ => judged_safe (by simp [toString]) not_false) mem
  | vectors => exact vectorChanges_cases judged_addVector (fun _ => judged_breaking trivial) mem
  | replication => exact judged_replicationChanges mem
  | tenants => exact judged_tenantChanges mem

end Families

/-- Every change of every plan is judged rightly. -/
theorem judged_of_mem {current : Option Collection} {target : Collection} {ch : Change}
    (mem : ch ∈ changes current target) : Judged current target ch := by
  cases current with
  | none =>
      simp only [changes, creation, List.mem_append, List.mem_map] at mem
      rcases mem with (⟨p, -, rfl⟩ | ⟨r, -, rfl⟩) | ⟨v, -, rfl⟩
      · exact judged_addProperty p
      · exact judged_addReference r
      · exact judged_addVector v
  | some current =>
      obtain ⟨family, mem⟩ := mem_transition_iff.mp mem
      exact judged_familyChanges mem

/-! ### The verdict on a plan -/

/-- The target keeps what the current schema has: every member by its name, the
properties of those names with the primary kind of the first one, and tenants as
they are. -/
structure Kept (current target : Collection) : Prop where
  properties : ∀ p ∈ current.properties, p.name ∈ target.properties.map (·.name)
  references : ∀ r ∈ current.references, r.name ∈ target.references.map (·.name)
  vectors : ∀ v ∈ current.vectors, v.name ∈ target.vectors.map (·.name)
  kinds : ∀ q ∈ target.properties, ∀ p ∈ current.property? q.name, q.kind? = p.kind?
  tenants : current.multiTenancy.enabled = target.multiTenancy.enabled

/-- What is kept twice is kept. -/
theorem Kept.trans {a b d : Collection} (first : Kept a b) (second : Kept b d) : Kept a d where
  properties p mem := by
    obtain ⟨q, memQ, same⟩ := List.mem_map.mp (first.properties p mem)
    exact same ▸ second.properties q memQ
  references r mem := by
    obtain ⟨q, memQ, same⟩ := List.mem_map.mp (first.references r mem)
    exact same ▸ second.references q memQ
  vectors v mem := by
    obtain ⟨w, memW, same⟩ := List.mem_map.mp (first.vectors v mem)
    exact same ▸ second.vectors w memW
  kinds q mem p found := by
    -- Between the two stands the first property of this name in the middle.
    have between := first.properties p (mem_of_named found)
    rw [nameOf_named found] at between
    obtain ⟨r, foundR⟩ := Option.isSome_iff_exists.mp (named_isSome_iff.mpr between)
    have foundP : a.property? r.name = some p := nameOf_named foundR ▸ found
    rw [second.kinds q mem r foundR, first.kinds r (mem_of_named foundR) p foundP]
  tenants := first.tenants.trans second.tenants

theorem isSafe_creation (target : Collection) : (Plan.toReach none target).isSafe := by
  refine List.all_eq_true.mpr fun ch mem => ?_
  simp only [Plan.toReach, changes, creation, List.mem_append, List.mem_map] at mem
  rcases mem with (⟨p, -, rfl⟩ | ⟨r, -, rfl⟩) | ⟨v, -, rfl⟩
  · rfl
  · rfl
  · rfl

/-- A plan is safe exactly when there is no schema yet or the target keeps it. -/
theorem isSafe_iff_kept {current : Option Collection} {target : Collection} :
    (Plan.toReach current target).isSafe ↔ ∀ c ∈ current, Kept c target := by
  cases current with
  | none =>
      exact iff_of_true (isSafe_creation target) fun c mem => absurd mem (Option.not_mem_none c)
  | some current =>
      simp only [isSafe_toReach_iff, unmatched_eq_nil_iff, Option.mem_some_iff, forall_eq']
      constructor
      · rintro ⟨properties, references, vectors, kinds, tenants⟩
        refine ⟨properties, references, vectors, fun q mem p found => ?_, tenants⟩
        exact (kinds (p, q) (mem_paired_iff.mpr ⟨mem, found⟩)).symm
      · rintro ⟨properties, references, vectors, kinds, tenants⟩
        refine ⟨properties, references, vectors, fun pair memPair => ?_, tenants⟩
        obtain ⟨mem, found⟩ := mem_paired_iff.mp memPair
        exact (kinds pair.2 mem pair.1 found).symm

/-- **The verdict is exact, and safe plans compose.** In every plan, names repeating
or not, a change is breaking exactly when its text begins with the marker, and
exactly when its kind loses data. The plan is safe exactly when there is no schema
yet or the target keeps it; so two safe plans, one from where the other leads,
make a safe plan. -/
theorem verdict_exact (current : Option Collection) (target : Collection) :
    (∀ ch ∈ changes current target,
      (ch.isSafe = false ↔ ch.Marked) ∧ (ch.isSafe = false ↔ ch.kind.Loses current target)) ∧
    ((Plan.toReach current target).isSafe ↔ ∀ c ∈ current, Kept c target) ∧
    ∀ next, (Plan.toReach current target).isSafe → (Plan.toReach (some target) next).isSafe →
      (Plan.toReach current next).isSafe := by
  refine ⟨fun ch mem => ⟨(judged_of_mem mem).marked, (judged_of_mem mem).loses⟩,
    isSafe_iff_kept, fun next first second => isSafe_iff_kept.mpr fun c mem => ?_⟩
  exact (isSafe_iff_kept.mp first c mem).trans (isSafe_iff_kept.mp second target rfl)

/-! ### A ledger whose names look like markers -/

/-- Of the two properties of one name the first one counts. -/
def ledger : Collection where
  name := "Ledger"
  properties := [.ofKind "entry" .text, .ofKind "entry" .int]

def ledgerNoted : Collection where
  name := "Ledger"
  properties := [.ofKind "BREAKING: note" .text, .ofKind "entry" .text]

def ledgerSigned : Collection where
  name := "Ledger"
  properties := ledgerNoted.properties
  references := [{ name := "BREAKING", target := "Person" }]

theorem verdict_ledger :
    addProperty (.ofKind "BREAKING: note" .text) ∈ changes (some ledger) ledgerNoted ∧
      ¬ (addProperty (.ofKind "BREAKING: note" .text)).Marked ∧
      (Plan.toReach (some ledger) ledgerNoted).isSafe ∧
      (Plan.toReach (some ledgerNoted) ledgerSigned).isSafe ∧
      (Plan.toReach (some ledger) ledgerSigned).isSafe := by
  obtain ⟨judged, -, compose⟩ := verdict_exact (some ledger) ledgerNoted
  have mem : addProperty (.ofKind "BREAKING: note" .text) ∈
      changes (some ledger) ledgerNoted := by decide
  have noted : (Plan.toReach (some ledger) ledgerNoted).isSafe := by decide
  have signed : (Plan.toReach (some ledgerNoted) ledgerSigned).isSafe := by decide
  refine ⟨mem, fun marked => ?_, noted, signed, compose ledgerSigned noted signed⟩
  cases (judged _ mem).1.mpr marked

end Migration

end CollectionSchema
