import CollectionSchema.Conformance.Pairing
import CollectionSchema.Proofs.Names.LetterCase

/-!
Pairing where names are distinct.

Both rounds of a pairing compare keys of the names: the names themselves, and the
names up to letter case. `claim_of_distinct` is one round where keys are distinct:
nobody takes what another wants, so that every name looks among all the entries.

* `ofNames_of_subset`: when distinct names are paired with entries of distinct
  names, and every name is among those of the entries, each name gets the entry of
  exactly that name, whatever names differ from it in letter case only, and the
  entries of other names are left over in their order.
* `ofNames_of_distinct`: when no two names, and no two entries, are equal up to
  letter case, each name gets the entry that is equal to it up to letter case.
-/

namespace CollectionSchema.Pairing

variable {α : Type} {nameOf : α → String} {entries : List α} {names : List String}

theorem takeFirst_eq (wanted : α → Bool) (entries : List α) :
    takeFirst wanted entries = (entries.find? wanted, entries.eraseP wanted) := by
  induction entries with
  | nil => rfl
  | cons a rest ih => by_cases h : wanted a <;> simp [takeFirst, h, ih]

/-! ### One round -/

section Seeking

variable {κ : Type} {key : String → κ} {pairs : List (String × Option α)}

/-- The keys of the names without a partner. -/
def seeking (key : String → κ) (pairs : List (String × Option α)) : List κ :=
  (pairs.filter fun pair => pair.2.isNone).map fun pair => key pair.1

@[simp]
theorem seeking_cons_none (name : String) :
    seeking key ((name, none) :: pairs) = key name :: seeking key pairs := rfl

@[simp]
theorem seeking_cons_some (name : String) (a : α) :
    seeking key ((name, some a) :: pairs) = seeking key pairs := rfl

@[simp]
theorem seeking_unpaired (names : List String) :
    seeking key (names.map fun name => (name, (none : Option α))) = names.map key := by
  simp [seeking, List.filter_map, Function.comp_def]

theorem mem_seeking {names : List String} {partner : String → Option α} {k : κ} :
    k ∈ seeking key (names.map fun name => (name, partner name)) ↔
      ∃ name ∈ names, partner name = none ∧ key name = k := by
  simp [seeking, and_assoc]

/-- The keys of those who seek are among the keys of all. -/
theorem seeking_sublist {names : List String} {partner : String → Option α} :
    (seeking key (names.map fun name => (name, partner name))).Sublist (names.map key) := by
  have all : names.map key =
      (names.map fun name => (name, partner name)).map fun pair => key pair.1 := by
    simp [Function.comp_def]
  rw [all]
  exact List.filter_sublist.map _

end Seeking

section Keys

variable {κ : Type} [BEq κ] [LawfulBEq κ] {key : String → κ} {keyOf : α → κ}
  {pairs : List (String × Option α)}

/-- Among entries with distinct keys, dropping the first of a key drops all. -/
theorem eraseP_eq_filter (distinct : (entries.map keyOf).Nodup) (wanted : κ) :
    entries.eraseP (keyOf · == wanted) = entries.filter (keyOf · != wanted) := by
  induction entries with
  | nil => rfl
  | cons a rest ih =>
      rw [List.map_cons, List.nodup_cons] at distinct
      by_cases h : keyOf a = wanted
      · have others : ∀ b ∈ rest, (keyOf b != wanted) = true := by
          intro b mem
          refine bne_iff_ne.mpr fun same => distinct.1 ?_
          exact h ▸ same ▸ List.mem_map_of_mem mem
        simp [h, List.filter_eq_self.mpr others]
      · simp [h, ih distinct.2]

theorem find?_filter_of_ne {wanted other : κ} (differs : other ≠ wanted) :
    (entries.filter (keyOf · != wanted)).find? (keyOf · == other) =
      entries.find? (keyOf · == other) := by
  rw [List.find?_filter]
  congr 1
  funext a
  by_cases h : keyOf a = other <;> simp [h, differs]

/-- A round among distinct keys: each name without a partner takes the entry of its
key, and the entries of other keys are left. -/
theorem claim_of_distinct [DecidableEq κ] (distinctKeys : (seeking key pairs).Nodup)
    (distinct : (entries.map keyOf).Nodup) :
    claim (fun name a => keyOf a == key name) pairs entries =
      (pairs.map fun pair => (pair.1, pair.2.or (entries.find? (keyOf · == key pair.1))),
        entries.filter fun a => decide (keyOf a ∉ seeking key pairs)) := by
  induction pairs generalizing entries with
  | nil => simp [claim, seeking]
  | cons pair rest ih =>
      obtain ⟨name, partner⟩ := pair
      cases partner with
      | some a =>
          rw [seeking_cons_some] at distinctKeys ⊢
          rw [claim, ih distinctKeys distinct]
          rfl
      | none =>
          rw [seeking_cons_none] at distinctKeys
          obtain ⟨fresh, distinctRest⟩ := List.nodup_cons.mp distinctKeys
          have left : ((entries.filter (keyOf · != key name)).map keyOf).Nodup :=
            distinct.sublist (List.filter_sublist.map keyOf)
          -- What the rest of the names look for is left just as it was before.
          have unchanged : ∀ pair ∈ rest,
              pair.2.or ((entries.filter (keyOf · != key name)).find? (keyOf · == key pair.1)) =
                pair.2.or (entries.find? (keyOf · == key pair.1)) := by
            rintro ⟨other, _ | b⟩ mem
            · have differs : key other ≠ key name := fun same =>
                fresh (same ▸ List.mem_map_of_mem (List.mem_filter.mpr ⟨mem, rfl⟩))
              rw [find?_filter_of_ne differs]
            · rfl
          simp only [claim, takeFirst_eq, eraseP_eq_filter distinct, ih distinctRest left,
            List.filter_filter, List.map_cons, Option.none_or]
          refine Prod.ext ?_ ?_
          · refine congrArg (_ :: ·) (List.map_congr_left fun pair mem => ?_)
            rw [unchanged pair mem]
          · refine List.filter_congr fun a _ => ?_
            by_cases h : keyOf a = key name <;> simp [h]

end Keys

/-! ### Both rounds -/

/-- The exact round: each name takes the entry of that name. -/
theorem claim_exact (distinctNames : names.Nodup) (distinct : (entries.map nameOf).Nodup) :
    claim (fun name a => nameOf a == name) (names.map fun name => (name, none)) entries =
      (names.map fun name => (name, named nameOf entries name),
        entries.filter fun a => decide (nameOf a ∉ names)) := by
  have seekers : seeking id (names.map fun name => (name, (none : Option α))) = names := by simp
  have round : claim (fun name a => nameOf a == id name) _ entries = _ :=
    claim_of_distinct (seekers.symm ▸ distinctNames) distinct
  rw [seekers, List.map_map] at round
  exact round

/-- A round gives nothing to names that have partners. -/
theorem claim_of_partnered {agrees : String → α → Bool} {pairs : List (String × Option α)}
    (partnered : ∀ pair ∈ pairs, pair.2.isSome) :
    claim agrees pairs entries = (pairs, entries) := by
  induction pairs with
  | nil => rfl
  | cons pair rest ih =>
      obtain ⟨name, partner⟩ := pair
      have first : partner.isSome := partnered (name, partner) (List.mem_cons_self ..)
      obtain ⟨a, rfl⟩ := Option.isSome_iff_exists.mp first
      simp [claim, ih fun pair mem => partnered pair (List.mem_cons_of_mem _ mem)]

/-- **Exact names win**: names that are all among those of the entries are paired
as lookup by name pairs them. -/
theorem ofNames_of_subset (distinctNames : names.Nodup) (distinct : (entries.map nameOf).Nodup)
    (subset : ∀ name ∈ names, name ∈ entries.map nameOf) :
    ofNames nameOf names entries =
      { partners := names.map (named nameOf entries)
        unclaimed := entries.filter fun a => decide (nameOf a ∉ names) } := by
  have partnered : ∀ pair ∈ names.map fun name => (name, named nameOf entries name),
      pair.2.isSome := by
    intro pair mem
    obtain ⟨name, wanted, rfl⟩ := List.mem_map.mp mem
    exact named_isSome_iff.mpr (subset name wanted)
  simp [ofNames, claim_exact distinctNames distinct, claim_of_partnered partnered,
    Function.comp_def]

section IgnoringCase

open Text

variable (distinctNames : DistinctIgnoringCase names)
  (distinct : DistinctIgnoringCase (entries.map nameOf))

/-- What the exact round leaves of the entries is as distinct as they were. -/
theorem distinct_left (distinct : DistinctIgnoringCase (entries.map nameOf)) :
    DistinctIgnoringCase ((entries.filter fun a => decide (nameOf a ∉ names)).map nameOf) :=
  distinct.sublist (List.filter_sublist.map nameOf)

include distinctNames distinct in
/-- Where a name has no entry of exactly its own, the entry that is equal to it up
to letter case is left by the exact round. -/
theorem alike_left {name : String} (mem : name ∈ names)
    (unnamed : named nameOf entries name = none) :
    alike nameOf (entries.filter fun a => decide (nameOf a ∉ names)) name =
      alike nameOf entries name := by
  ext a
  rw [alike_eq_some_iff (distinct_left distinct), alike_eq_some_iff distinct, List.mem_filter]
  constructor
  · rintro ⟨⟨memA, -⟩, same⟩
    exact ⟨memA, same⟩
  · rintro ⟨memA, same⟩
    refine ⟨⟨memA, decide_eq_true fun taken => named_eq_none_iff.mp unnamed ?_⟩, same⟩
    rw [← distinctNames.eq_of_same taken mem (sameIgnoringCase_iff.mp same)]
    exact List.mem_map_of_mem memA

include distinct in
/-- An entry is left by both rounds exactly when no name is equal to it up to letter
case. -/
theorem unclaimed_iff {a : α} (memA : a ∈ entries) :
    foldCase (nameOf a) ∉
          seeking foldCase (names.map fun name => (name, named nameOf entries name)) ∧
        nameOf a ∉ names ↔
      foldCase (nameOf a) ∉ names.map foldCase := by
  constructor
  · rintro ⟨unsought, other⟩ wanted
    obtain ⟨name, mem, same⟩ := List.mem_map.mp wanted
    refine unsought (mem_seeking.mpr ⟨name, mem, ?_, same⟩)
    cases found : named nameOf entries name with
    | none => rfl
    | some b =>
        obtain rfl : nameOf b = name := nameOf_named found
        obtain rfl := distinct.entry_eq_of_same (mem_of_named found) memA same
        exact absurd mem other
  · intro unwanted
    refine ⟨fun sought => unwanted ?_, fun mem => unwanted (List.mem_map_of_mem mem)⟩
    obtain ⟨name, mem, -, same⟩ := mem_seeking.mp sought
    exact same ▸ List.mem_map_of_mem mem

include distinctNames distinct in
/-- **Letter case is the only freedom**: each name is paired with the entry that is
equal to it up to letter case, and the other entries are left in their order. -/
theorem ofNames_of_distinct :
    ofNames nameOf names entries =
      { partners := names.map (alike nameOf entries)
        unclaimed := entries.filter fun a =>
          decide (foldCase (nameOf a) ∉ names.map foldCase) } := by
  have distinctKeys : (seeking foldCase
      (names.map fun name => (name, named nameOf entries name))).Nodup :=
    List.Nodup.sublist seeking_sublist distinctNames
  have distinctLeft : DistinctIgnoringCase
      ((entries.filter fun a => decide (nameOf a ∉ names)).map nameOf) := distinct_left distinct
  have second : claim (fun name a => sameIgnoringCase (nameOf a) name) _ _ = _ :=
    claim_of_distinct distinctKeys distinctLeft.nodup_map
  have partners : ∀ name ∈ names,
      (named nameOf entries name).or
          (alike nameOf (entries.filter fun a => decide (nameOf a ∉ names)) name) =
        alike nameOf entries name := by
    intro name mem
    cases found : named nameOf entries name with
    | none => rw [Option.none_or, alike_left distinctNames distinct mem found]
    | some a => rw [Option.some_or, alike_of_named distinct found]
  simp only [ofNames, claim_exact distinctNames.nodup distinct.nodup, second, List.map_map,
    List.filter_filter, Pairing.mk.injEq]
  refine ⟨List.map_congr_left partners, List.filter_congr fun a memA => ?_⟩
  rw [← Bool.decide_and, decide_eq_decide]
  exact unclaimed_iff distinct memA

end IgnoringCase

end CollectionSchema.Pairing
