import CollectionSchema.Proofs.Names.Lookup
import Mathlib.Data.Prod.Basic

/-!
Two lists of named entries, matched by name.

Entries whose names the other list lacks are `unmatched`; the others are `paired`
with the first entry of their name. `reconcile` edits one list until it agrees
with the other: it appends what is unmatched there, drops what is unmatched here,
and replaces what differs. `reconcile_agrees` says that it arrives: afterwards
nothing is unmatched on either side, and no pair differs.
-/

namespace CollectionSchema

/-! ### Matched and unmatched entries -/

section Matching

variable {α : Type} {nameOf : α → String} {others entries : List α}

/-- The entries whose names no other has. -/
def unmatched (nameOf : α → String) (others entries : List α) : List α :=
  entries.filter fun a => (named nameOf others (nameOf a)).isNone

/-- The entries whose names others have, each behind the first other of its name. -/
def paired (nameOf : α → String) (others entries : List α) : List (α × α) :=
  entries.filterMap fun a => (named nameOf others (nameOf a)).map (·, a)

theorem mem_unmatched_iff {a : α} :
    a ∈ unmatched nameOf others entries ↔ a ∈ entries ∧ nameOf a ∉ others.map nameOf := by
  rw [unmatched, List.mem_filter, Option.isNone_iff_eq_none, named_eq_none_iff]

theorem unmatched_eq_nil_iff :
    unmatched nameOf others entries = [] ↔
      ∀ a ∈ entries, nameOf a ∈ others.map nameOf := by
  rw [List.eq_nil_iff_forall_not_mem]
  simp only [mem_unmatched_iff, not_and, not_not]

theorem unmatched_eq_filter {names : List String} (same : others.map nameOf = names) :
    unmatched nameOf others entries = entries.filter fun a => decide (nameOf a ∉ names) := by
  refine List.filter_congr fun a _ => ?_
  rw [Bool.eq_iff_iff, Option.isNone_iff_eq_none, named_eq_none_iff, same, decide_eq_true_eq]

theorem mem_paired_iff {pair : α × α} :
    pair ∈ paired nameOf others entries ↔
      pair.2 ∈ entries ∧ named nameOf others (nameOf pair.2) = some pair.1 := by
  obtain ⟨b, a⟩ := pair
  simp only [paired, List.mem_filterMap, Option.map_eq_some_iff, Prod.mk.injEq]
  constructor
  · rintro ⟨_, mem, _, found, rfl, rfl⟩
    exact ⟨mem, found⟩
  · rintro ⟨mem, found⟩
    exact ⟨a, mem, b, found, rfl, rfl⟩

/-- Going through the entries that have a partner is going through the pairs. -/
theorem flatMap_paired {β : Type} (f : α → α → List β) :
    (paired nameOf others entries).flatMap (fun pair => f pair.1 pair.2) =
      entries.flatMap fun a =>
        match named nameOf others (nameOf a) with
        | none => []
        | some b => f b a := by
  induction entries with
  | nil => rfl
  | cons a rest ih =>
      rw [List.flatMap_cons, ← ih, paired, List.filterMap_cons]
      cases named nameOf others (nameOf a) <;> rfl

theorem map_snd_paired :
    (paired nameOf others entries).map (·.2) =
      entries.filter fun a => (named nameOf others (nameOf a)).isSome := by
  induction entries with
  | nil => rfl
  | cons a rest ih =>
      rw [paired] at ih ⊢
      cases h : named nameOf others (nameOf a) <;> simp [h, ih]

/-- The names of the pairs, in their order, are among those of the entries. -/
theorem names_paired_sublist :
    ((paired nameOf others entries).map fun pair => nameOf pair.2).Sublist
      (entries.map nameOf) := by
  have names : (paired nameOf others entries).map (fun pair => nameOf pair.2) =
      ((paired nameOf others entries).map (·.2)).map nameOf := by
    rw [List.map_map]
    rfl
  rw [names, map_snd_paired]
  exact List.filter_sublist.map nameOf

/-- Pairs of entries with distinct names have distinct names. -/
theorem nodup_paired (distinct : (entries.map nameOf).Nodup) :
    ((paired nameOf others entries).map fun pair => nameOf pair.2).Nodup :=
  distinct.sublist names_paired_sublist

/-- Where names are distinct on both sides, the pairs are the same from either side. -/
theorem perm_paired (distinct : (entries.map nameOf).Nodup)
    (distinctOthers : (others.map nameOf).Nodup) :
    (paired nameOf others entries).Perm ((paired nameOf entries others).map Prod.swap) := by
  have seen {as bs : List α} {a b : α} (distinct : (as.map nameOf).Nodup)
      (pair : (b, a) ∈ paired nameOf bs as) : (a, b) ∈ paired nameOf as bs := by
    obtain ⟨mem, found⟩ := mem_paired_iff.mp pair
    refine mem_paired_iff.mpr ⟨mem_of_named found, ?_⟩
    rw [nameOf_named found]
    exact named_of_mem distinct mem
  have nodup : (paired nameOf others entries).Nodup := (nodup_paired distinct).of_map
  have nodupSwapped : ((paired nameOf entries others).map Prod.swap).Nodup :=
    (nodup_paired distinctOthers).of_map.map Prod.swap_injective
  refine (List.perm_ext_iff_of_nodup nodup nodupSwapped).mpr fun pair => ?_
  constructor
  · intro mem
    exact List.mem_map.mpr ⟨pair.swap, seen distinct mem, pair.swap_swap⟩
  · intro mem
    obtain ⟨other, memOther, rfl⟩ := List.mem_map.mp mem
    exact seen distinctOthers memOther

/-! ### The entries of one name -/

theorem filter_unmatched (distinct : (entries.map nameOf).Nodup) (name : String) :
    (unmatched nameOf others entries).filter (nameOf · == name) =
      if (named nameOf others name).isSome then [] else (named nameOf entries name).toList := by
  have swap : (unmatched nameOf others entries).filter (nameOf · == name) =
      (entries.filter (nameOf · == name)).filter
        fun a => (named nameOf others (nameOf a)).isNone := by
    rw [unmatched, List.filter_filter, List.filter_filter]
    exact List.filter_congr fun a _ => Bool.and_comm ..
  rw [swap, filter_nameOf distinct]
  cases found : named nameOf entries name with
  | none => simp
  | some a =>
      obtain rfl := nameOf_named found
      cases look : named nameOf others (nameOf a) <;> simp [look]

theorem filter_paired (distinct : (entries.map nameOf).Nodup) (name : String) :
    (paired nameOf others entries).filter (fun pair => nameOf pair.2 == name) =
      ((named nameOf others name).bind fun b =>
        (named nameOf entries name).map fun a => (b, a)).toList := by
  have swap : (paired nameOf others entries).filter (fun pair => nameOf pair.2 == name) =
      paired nameOf others (entries.filter (nameOf · == name)) := by
    rw [paired, paired, List.filter_filterMap, List.filterMap_filter]
    refine List.filterMap_congr fun a _ => ?_
    cases named nameOf others (nameOf a) <;> simp [Option.filter]
  rw [swap, filter_nameOf distinct]
  cases found : named nameOf entries name with
  | none => cases named nameOf others name <;> rfl
  | some a =>
      obtain rfl := nameOf_named found
      cases look : named nameOf others (nameOf a) <;> simp [paired, look]

/-! ### The names of both lists -/

/-- A list and what it lacks of another have the names of both. -/
theorem mem_names_extended_iff {name : String} :
    name ∈ (entries ++ unmatched nameOf entries others).map nameOf ↔
      name ∈ entries.map nameOf ∨ name ∈ others.map nameOf := by
  rw [List.map_append, List.mem_append]
  constructor
  · rintro (here | new)
    · exact .inl here
    · obtain ⟨a, mem, rfl⟩ := List.mem_map.mp new
      exact .inr (List.mem_map_of_mem (mem_unmatched_iff.mp mem).1)
  · rintro (here | there)
    · exact .inl here
    · by_cases here : name ∈ entries.map nameOf
      · exact .inl here
      · obtain ⟨a, mem, rfl⟩ := List.mem_map.mp there
        exact .inr (List.mem_map_of_mem (mem_unmatched_iff.mpr ⟨mem, here⟩))

/-- Adding what a list lacks of another repeats no name. -/
theorem nodup_names_extended (distinct : (entries.map nameOf).Nodup)
    (distinctOthers : (others.map nameOf).Nodup) :
    ((entries ++ unmatched nameOf entries others).map nameOf).Nodup := by
  have distinctNew : ((unmatched nameOf entries others).map nameOf).Nodup :=
    distinctOthers.sublist (List.filter_sublist.map nameOf)
  rw [List.map_append]
  refine distinct.append distinctNew ?_
  intro name here new
  obtain ⟨a, mem, rfl⟩ := List.mem_map.mp new
  exact (mem_unmatched_iff.mp mem).2 here

end Matching

/-! ### Editing towards another list -/

section Editing

variable {α : Type} {nameOf : α → String}

/-- Drops the entries with the name of `a`. -/
def dropNamed (nameOf : α → String) (a : α) (entries : List α) : List α :=
  entries.filter fun b => nameOf b != nameOf a

/-- Puts `a` in the place of the entries of its name. -/
def replaceNamed (nameOf : α → String) (a : α) (entries : List α) : List α :=
  entries.map fun b => if nameOf b = nameOf a then a else b

/-- Replaces the first entry of a pair by the second if they differ. -/
def replacePair (nameOf : α → String) (differs : α → α → Bool) (entries : List α)
    (pair : α × α) : List α :=
  if differs pair.1 pair.2 then replaceNamed nameOf pair.2 entries else entries

/-- Edits `current` towards `target`: additions first, then removals, then
replacements. -/
def reconcile (nameOf : α → String) (differs : α → α → Bool) (current target : List α) : List α :=
  let extended := current ++ unmatched nameOf current target
  let kept := (unmatched nameOf target current).foldl (fun es a => dropNamed nameOf a es) extended
  (paired nameOf current target).foldl (replacePair nameOf differs) kept

theorem named_replaceNamed (a : α) (entries : List α) (name : String) :
    named nameOf (replaceNamed nameOf a entries) name =
      if name = nameOf a then (named nameOf entries name).map fun _ => a
      else named nameOf entries name := by
  induction entries with
  | nil => simp [replaceNamed]
  | cons b rest ih =>
      rw [replaceNamed] at ih ⊢
      rw [List.map_cons, named_cons, named_cons, ih]
      by_cases same : nameOf b = nameOf a
      · by_cases here : name = nameOf a
        · simp [same, here]
        · simp [same, here, Ne.symm here]
      · by_cases here : nameOf b = name
        · have other : name ≠ nameOf a := here ▸ same
          simp [here, other]
        · simp [same, here]

/-- Replacing leaves the names as they are. -/
theorem map_replaceNamed (a : α) (entries : List α) :
    (replaceNamed nameOf a entries).map nameOf = entries.map nameOf := by
  rw [replaceNamed, List.map_map]
  refine List.map_congr_left fun b _ => ?_
  rw [Function.comp_apply]
  split_ifs with same
  · exact same.symm
  · rfl

/-- Dropping entry by entry is dropping all their names at once. -/
theorem foldl_dropNamed (dropped entries : List α) :
    dropped.foldl (fun es a => dropNamed nameOf a es) entries =
      entries.filter fun b => decide (nameOf b ∉ dropped.map nameOf) := by
  induction dropped generalizing entries with
  | nil => simp
  | cons a rest ih =>
      rw [List.foldl_cons, ih, dropNamed, List.filter_filter]
      refine List.filter_congr fun b _ => ?_
      by_cases h : nameOf b = nameOf a <;> simp [h]

section Replacing

variable {differs : α → α → Bool} {pairs : List (α × α)} {name : String}

theorem named_replacePair_of_ne {pair : α × α} (other : name ≠ nameOf pair.2)
    (entries : List α) :
    named nameOf (replacePair nameOf differs entries pair) name = named nameOf entries name := by
  unfold replacePair
  split
  · rw [named_replaceNamed, if_neg other]
  · rfl

theorem named_foldl_of_notMem (absent : ∀ pair ∈ pairs, name ≠ nameOf pair.2)
    (entries : List α) :
    named nameOf (pairs.foldl (replacePair nameOf differs) entries) name =
      named nameOf entries name := by
  induction pairs generalizing entries with
  | nil => rfl
  | cons pair rest ih =>
      rw [List.foldl_cons, ih fun pair mem => absent pair (List.mem_cons_of_mem _ mem)]
      exact named_replacePair_of_ne (absent pair (List.mem_cons_self ..)) entries

/-- Of pairs with distinct names only one bears on what is found under its name. -/
theorem named_foldl_of_mem (distinct : (pairs.map fun pair => nameOf pair.2).Nodup) {e a : α}
    (mem : (e, a) ∈ pairs) (entries : List α) :
    named nameOf (pairs.foldl (replacePair nameOf differs) entries) (nameOf a) =
      if differs e a then (named nameOf entries (nameOf a)).map fun _ => a
      else named nameOf entries (nameOf a) := by
  induction pairs generalizing entries with
  | nil => cases mem
  | cons pair rest ih =>
      rw [List.map_cons, List.nodup_cons] at distinct
      rw [List.foldl_cons]
      rcases List.mem_cons.mp mem with rfl | later
      · have absent : ∀ other ∈ rest, nameOf a ≠ nameOf other.2 := fun other mem same =>
          distinct.1 (same ▸ List.mem_map_of_mem (f := fun pair => nameOf pair.2) mem)
        rw [named_foldl_of_notMem absent, replacePair]
        split
        · rw [named_replaceNamed, if_pos rfl]
        · rfl
      · have other : nameOf a ≠ nameOf pair.2 := fun same =>
          distinct.1 (same ▸ List.mem_map_of_mem (f := fun pair => nameOf pair.2) later)
        rw [ih distinct.2 later, named_replacePair_of_ne other]

end Replacing

/-! ### Arriving at the other list -/

section Arriving

variable {differs : α → α → Bool} {current target : List α}

/-- Under a name that the target lacks, nothing is left. -/
theorem named_reconcile_of_notMem {name : String} (absent : name ∉ target.map nameOf) :
    named nameOf (reconcile nameOf differs current target) name = none := by
  have unpaired : ∀ pair ∈ paired nameOf current target, name ≠ nameOf pair.2 := by
    rintro pair mem rfl
    exact absent (List.mem_map_of_mem (mem_paired_iff.mp mem).1)
  have added : named nameOf (unmatched nameOf current target) name = none := by
    refine named_eq_none_iff.mpr fun mem => absent ?_
    obtain ⟨a, memA, rfl⟩ := List.mem_map.mp mem
    exact List.mem_map_of_mem (mem_unmatched_iff.mp memA).1
  rw [reconcile, named_foldl_of_notMem unpaired, foldl_dropNamed,
    named_filter_nameOf fun name => decide (name ∉ (unmatched nameOf target current).map nameOf)]
  split
  next keeps =>
    rw [named_append, added, Option.or_none, named_eq_none_iff]
    intro mem
    obtain ⟨a, memA, rfl⟩ := List.mem_map.mp mem
    exact of_decide_eq_true keeps (List.mem_map_of_mem (mem_unmatched_iff.mpr ⟨memA, absent⟩))
  next => rfl

/-- Under a name of the target stands its entry, or one that does not differ. -/
theorem named_reconcile_of_mem (distinct : (target.map nameOf).Nodup)
    (irreflexive : ∀ a, differs a a = false) {a : α} (mem : a ∈ target) :
    ∃ b, named nameOf (reconcile nameOf differs current target) (nameOf a) = some b ∧
      differs b a = false := by
  have keeps : decide (nameOf a ∉ (unmatched nameOf target current).map nameOf) = true := by
    refine decide_eq_true fun dropped => ?_
    obtain ⟨b, memB, same⟩ := List.mem_map.mp dropped
    exact (mem_unmatched_iff.mp memB).2 (same ▸ List.mem_map_of_mem mem)
  have kept : named nameOf ((unmatched nameOf target current).foldl
      (fun es a => dropNamed nameOf a es) (current ++ unmatched nameOf current target)) (nameOf a) =
        (named nameOf current (nameOf a)).or
          (named nameOf (unmatched nameOf current target) (nameOf a)) := by
    rw [foldl_dropNamed,
      named_filter_nameOf fun name => decide (name ∉ (unmatched nameOf target current).map nameOf),
      if_pos keeps, named_append]
  rw [reconcile]
  cases found : named nameOf current (nameOf a) with
  | none =>
      -- The entry is new: it was appended, and no pair bears its name.
      have unpaired : ∀ pair ∈ paired nameOf current target, nameOf a ≠ nameOf pair.2 := by
        intro pair memPair same
        rw [same, (mem_paired_iff.mp memPair).2] at found
        cases found
      have fresh : a ∈ unmatched nameOf current target :=
        mem_unmatched_iff.mpr ⟨mem, named_eq_none_iff.mp found⟩
      have distinctAdded : ((unmatched nameOf current target).map nameOf).Nodup :=
        distinct.sublist (List.filter_sublist.map nameOf)
      rw [named_foldl_of_notMem unpaired, kept, found, Option.none_or,
        named_of_mem distinctAdded fresh]
      exact ⟨a, rfl, irreflexive a⟩
  | some e =>
      have pair : (e, a) ∈ paired nameOf current target := mem_paired_iff.mpr ⟨mem, found⟩
      rw [named_foldl_of_mem (nodup_paired distinct) pair, kept, found, Option.some_or]
      cases same : differs e a with
      | true => exact ⟨a, rfl, irreflexive a⟩
      | false => exact ⟨e, rfl, same⟩

/-- Only names of the target are left. -/
theorem mem_target_of_mem_reconcile {name : String}
    (mem : name ∈ (reconcile nameOf differs current target).map nameOf) :
    name ∈ target.map nameOf := by
  by_contra absent
  exact named_eq_none_iff.mp (named_reconcile_of_notMem absent) mem

/-- **Editing arrives**: after it, nothing is unmatched on either side and no pair
differs. -/
theorem reconcile_agrees (current : List α) (distinct : (target.map nameOf).Nodup)
    (irreflexive : ∀ a, differs a a = false) :
    unmatched nameOf target (reconcile nameOf differs current target) = [] ∧
      unmatched nameOf (reconcile nameOf differs current target) target = [] ∧
        ∀ pair ∈ paired nameOf (reconcile nameOf differs current target) target,
          differs pair.1 pair.2 = false := by
  refine ⟨unmatched_eq_nil_iff.mpr fun a mem => ?_, unmatched_eq_nil_iff.mpr fun a mem => ?_, ?_⟩
  · exact mem_target_of_mem_reconcile (List.mem_map_of_mem mem)
  · obtain ⟨b, found, -⟩ := named_reconcile_of_mem distinct irreflexive mem
    exact named_isSome_iff.mp (found ▸ rfl)
  · intro pair memPair
    obtain ⟨mem, found⟩ := mem_paired_iff.mp memPair
    obtain ⟨b, found', same⟩ := named_reconcile_of_mem distinct irreflexive mem
    exact Option.some.inj (found'.symm.trans found) ▸ same

end Arriving

end Editing

end CollectionSchema
