import CollectionSchema.Proofs.Conformance.Pairing
import Mathlib.Data.List.ReduceOption

/-!
Pairing as a matching, whatever names come more than once.

Where names repeat, which entry a name gets depends on the order, but how many names of a kind get
one does not. A round serves as many names of a key as there are, or as there are entries of the
key, and leaves the others of both: `count_left_claim`. The exact round takes the same number of
names and of entries out of each class of names that are equal up to letter case, so that the
second round makes up for all that the first one left: `unpartnered_and_unclaimed`.

* `places`: the places of the entries that the names take, so that equal entries are told apart.
* `IsMaximum`: no entry goes to two names, names and their entries are equal up to letter case,
  and the number of pairs is as large as can be, for each name and for each class.
* `isMaximum_ofNames`: every pairing of names with entries is of this kind.
-/

namespace CollectionSchema.Pairing

open Text

variable {α β : Type}

/-! ### Taking an entry -/

/-- Either there is nothing to take and all is left, or an entry that is wanted is taken and the
others are left. -/
theorem takeFirst_cases (wanted : α → Bool) (entries : List α) :
    (takeFirst wanted entries = (none, entries) ∧ ∀ a ∈ entries, ¬ wanted a) ∨
      ∃ a left, takeFirst wanted entries = (some a, left) ∧ wanted a ∧
        entries.Perm (a :: left) := by
  rw [takeFirst_eq]
  cases found : entries.find? wanted with
  | none =>
      have unwanted : ∀ a ∈ entries, ¬ wanted a := by simpa using found
      exact .inl ⟨by rw [List.eraseP_of_forall_not unwanted], unwanted⟩
  | some a =>
      obtain ⟨wantedA, before, after, rfl, others⟩ := List.find?_eq_some_iff_append.mp found
      have left : (before ++ a :: after).eraseP wanted = before ++ after := by
        rw [List.eraseP_append_right _ (by simpa using others), List.eraseP_cons_of_pos wantedA]
      exact .inr ⟨a, before ++ after, by rw [left], wantedA, List.perm_middle⟩

theorem takeFirst_map (g : β → α) (wanted : α → Bool) (entries : List β) :
    takeFirst wanted (entries.map g) =
      ((takeFirst (wanted ∘ g) entries).1.map g, (takeFirst (wanted ∘ g) entries).2.map g) := by
  rw [takeFirst_eq, takeFirst_eq, List.find?_map, List.eraseP_map]

/-! ### One round -/

section Round

variable {agrees : String → α → Bool} {pairs : List (String × Option α)} {entries : List α}

theorem map_fst_claim :
    (claim agrees pairs entries).1.map (·.1) = pairs.map (·.1) := by
  induction pairs generalizing entries with
  | nil => rfl
  | cons pair rest ih =>
      obtain ⟨name, _ | a⟩ := pair
      · rw [claim, List.map_cons, List.map_cons, ih]
      · rw [claim, List.map_cons, List.map_cons, ih]

/-- What is handed out and what is left are the entries, none of them twice. -/
theorem perm_claim (agrees : String → α → Bool) (pairs : List (String × Option α))
    (entries : List α) :
    ((claim agrees pairs entries).1.filterMap (·.2) ++ (claim agrees pairs entries).2).Perm
      (pairs.filterMap (·.2) ++ entries) := by
  induction pairs generalizing entries with
  | nil => exact .refl _
  | cons pair rest ih =>
      obtain ⟨name, _ | a⟩ := pair
      · rcases takeFirst_cases (agrees name) entries with
          ⟨taken, -⟩ | ⟨a, left, taken, -, perm⟩
        · simp only [claim, taken]
          exact ih entries
        · simp only [claim, taken]
          exact (((ih left).cons a).trans List.perm_middle.symm).trans (perm.symm.append_left _)
      · simp only [claim]
        exact (ih entries).cons a

/-- Whom a round gives an entry, it gives one that agrees. -/
theorem agrees_of_mem_claim {name : String} {a : α}
    (mem : (name, some a) ∈ (claim agrees pairs entries).1) :
    (name, some a) ∈ pairs ∨ agrees name a := by
  induction pairs generalizing entries with
  | nil => cases mem
  | cons pair rest ih =>
      obtain ⟨other, _ | b⟩ := pair
      · rcases takeFirst_cases (agrees other) entries with
          ⟨taken, -⟩ | ⟨b, left, taken, agree, -⟩
        · simp only [claim, taken, List.mem_cons, Prod.mk.injEq, reduceCtorEq, and_false,
            false_or] at mem
          exact (ih mem).imp_left (List.mem_cons_of_mem _)
        · simp only [claim, taken, List.mem_cons, Prod.mk.injEq, Option.some.injEq] at mem
          rcases mem with ⟨rfl, rfl⟩ | mem
          · exact .inr agree
          · exact (ih mem).imp_left (List.mem_cons_of_mem _)
      · rw [claim, List.mem_cons] at mem
        rcases mem with here | mem
        · exact .inl (here ▸ List.mem_cons_self ..)
        · exact (ih mem).imp_left (List.mem_cons_of_mem _)

theorem claim_map (g : β → α) (pairs : List (String × Option β)) (entries : List β) :
    claim agrees (pairs.map fun pair => (pair.1, pair.2.map g)) (entries.map g) =
      ((claim (fun name b => agrees name (g b)) pairs entries).1.map
          fun pair => (pair.1, pair.2.map g),
        (claim (fun name b => agrees name (g b)) pairs entries).2.map g) := by
  induction pairs generalizing entries with
  | nil => rfl
  | cons pair rest ih =>
      obtain ⟨name, _ | b⟩ := pair
      · simp only [List.map_cons, Option.map_none, claim, takeFirst_map, ih]
        rfl
      · simp only [List.map_cons, Option.map_some, claim, ih]

end Round

/-! ### Counting -/

section Counting

variable {κ : Type} [BEq κ] {key : String → κ} {keyOf : α → κ}

/-- The names of a key are those with a partner and those without. -/
theorem count_partnered_add_seeking (key : String → κ) (pairs : List (String × Option α)) (k : κ) :
    pairs.countP (fun pair => key pair.1 == k && pair.2.isSome) + (seeking key pairs).count k =
      ((pairs.map (·.1)).map key).count k := by
  induction pairs with
  | nil => rfl
  | cons pair rest ih =>
      obtain ⟨name, _ | a⟩ := pair
      · simp only [List.countP_cons, Option.isSome_none, Bool.and_false, Bool.false_eq_true,
          if_false, seeking_cons_none, List.count_cons, List.map_cons]
        omega
      · simp only [List.countP_cons, Option.isSome_some, Bool.and_true, seeking_cons_some,
          List.count_cons, List.map_cons]
        omega

/-- **Names and entries balance**: a round takes as many names of a key as entries of it, when
those that agree have the same key. -/
theorem claim_balance {agrees : String → α → Bool}
    (same : ∀ name a, agrees name a → keyOf a = key name) (pairs : List (String × Option α))
    (entries : List α) (k : κ) :
    (seeking key pairs).count k + ((claim agrees pairs entries).2.map keyOf).count k =
      (seeking key (claim agrees pairs entries).1).count k + (entries.map keyOf).count k := by
  induction pairs generalizing entries with
  | nil => rfl
  | cons pair rest ih =>
      obtain ⟨name, _ | a⟩ := pair
      · rcases takeFirst_cases (agrees name) entries with
          ⟨taken, -⟩ | ⟨a, left, taken, agree, perm⟩
        · simp only [claim, taken, seeking_cons_none, List.count_cons]
          have rest := ih entries
          omega
        · have spent := (perm.map keyOf).count_eq k
          rw [List.map_cons, List.count_cons, same name a agree] at spent
          simp only [claim, taken, seeking_cons_none, seeking_cons_some, List.count_cons]
          have rest := ih left
          omega
      · simp only [claim, seeking_cons_some]
        exact ih entries

variable [LawfulBEq κ] (key : String → κ) (keyOf : α → κ) (pairs : List (String × Option α))
  (entries : List α)

/-- **A round leaves the entries that are too many**: of each key, what is left is what there is
beyond the names that seek it. -/
theorem count_left_claim (k : κ) :
    ((claim (fun name a => keyOf a == key name) pairs entries).2.map keyOf).count k =
      (entries.map keyOf).count k - (seeking key pairs).count k := by
  induction pairs generalizing entries with
  | nil => rfl
  | cons pair rest ih =>
      obtain ⟨name, _ | a⟩ := pair
      · rcases takeFirst_cases (fun a => keyOf a == key name) entries with
          ⟨taken, unwanted⟩ | ⟨a, left, taken, wanted, perm⟩
        · simp only [claim, taken, seeking_cons_none, List.count_cons, ih]
          split
          case isTrue here =>
              have absent : (entries.map keyOf).count k = 0 := by
                refine List.count_eq_zero.mpr fun mem => ?_
                obtain ⟨a, memA, rfl⟩ := List.mem_map.mp mem
                exact unwanted a memA (BEq.symm here)
              omega
          case isFalse => rfl
        · have spent := (perm.map keyOf).count_eq k
          rw [List.map_cons, List.count_cons, beq_iff_eq.mp wanted] at spent
          simp only [claim, taken, seeking_cons_none, List.count_cons, ih]
          omega
      · simp only [claim, seeking_cons_some]
        exact ih entries

/-- **A round leaves the names that are too many**: of each key, the names without a partner are
those beyond the entries there are. -/
theorem count_seeking_claim (k : κ) :
    (seeking key (claim (fun name a => keyOf a == key name) pairs entries).1).count k =
      (seeking key pairs).count k - (entries.map keyOf).count k := by
  have same : ∀ name a, (keyOf a == key name) = true → keyOf a = key name :=
    fun _ _ agree => beq_iff_eq.mp agree
  have left := count_left_claim key keyOf pairs entries k
  have balance := claim_balance same pairs entries k
  omega

end Counting

/-! ### Both rounds -/

section Both

variable {nameOf : α → String} {names : List String} {entries : List α} {name : String}

/-- The names with the partners that the exact round gives them, and the entries that it leaves. -/
def exactRound (nameOf : α → String) (names : List String) (entries : List α) :
    List (String × Option α) × List α :=
  claim (fun name a => nameOf a == name) (names.map fun name => (name, none)) entries

/-- The names with their partners after both rounds, and the entries that are left over. -/
def bothRounds (nameOf : α → String) (names : List String) (entries : List α) :
    List (String × Option α) × List α :=
  claim (fun name a => sameIgnoringCase (nameOf a) name) (exactRound nameOf names entries).1
    (exactRound nameOf names entries).2

theorem ofNames_eq_bothRounds :
    ofNames nameOf names entries =
      { partners := (bothRounds nameOf names entries).1.map (·.2)
        unclaimed := (bothRounds nameOf names entries).2 } := rfl

theorem map_fst_exactRound : (exactRound nameOf names entries).1.map (·.1) = names := by
  rw [exactRound, map_fst_claim, List.map_map]
  exact List.map_id' names

theorem map_fst_bothRounds : (bothRounds nameOf names entries).1.map (·.1) = names := by
  rw [bothRounds, map_fst_claim, map_fst_exactRound]

/-- The pairing lists the partners in the order of the names. -/
theorem zip_partners :
    names.zip (ofNames nameOf names entries).partners = (bothRounds nameOf names entries).1 :=
  (List.zip_of_prod map_fst_bothRounds rfl).symm

/-! ### The exact round -/

theorem count_left_exactRound :
    ((exactRound nameOf names entries).2.map nameOf).count name =
      (entries.map nameOf).count name - names.count name := by
  have left := count_left_claim id nameOf (names.map fun name => (name, none)) entries name
  rw [seeking_unpaired, List.map_id] at left
  exact left

theorem count_seeking_exactRound :
    (seeking id (exactRound nameOf names entries).1).count name =
      names.count name - (entries.map nameOf).count name := by
  have seeking := count_seeking_claim id nameOf (names.map fun name => (name, none)) entries name
  rw [seeking_unpaired, List.map_id] at seeking
  exact seeking

theorem nameOf_of_mem_exactRound {a : α}
    (mem : (name, some a) ∈ (exactRound nameOf names entries).1) : nameOf a = name := by
  rcases agrees_of_mem_claim mem with before | agree
  · obtain ⟨_, -, unpaired⟩ := List.mem_map.mp before
    cases unpaired
  · exact beq_iff_eq.mp agree

/-- A name that has no partner after the exact round has no entry of its own left. -/
theorem unnamed_of_seeking (sought : name ∈ seeking id (exactRound nameOf names entries).1) :
    name ∉ (exactRound nameOf names entries).2.map nameOf := by
  intro left
  have beyond := List.count_pos_iff.mpr sought
  have short := List.count_pos_iff.mpr left
  rw [count_seeking_exactRound] at beyond
  rw [count_left_exactRound] at short
  omega

/-- Whether a name and its partner are both the given name. -/
def isExact (nameOf : α → String) (name : String) (pair : String × Option α) : Bool :=
  pair.1 == name && pair.2.any (nameOf · == name)

theorem countP_isExact_exactRound :
    (exactRound nameOf names entries).1.countP (isExact nameOf name) =
      min (names.count name) ((entries.map nameOf).count name) := by
  have partnered : (exactRound nameOf names entries).1.countP (isExact nameOf name) =
      (exactRound nameOf names entries).1.countP
        fun pair => id pair.1 == name && pair.2.isSome := by
    refine List.countP_congr ?_
    rintro ⟨other, _ | a⟩ mem
    · simp [isExact]
    · simp [isExact, nameOf_of_mem_exactRound mem]
  have all := count_partnered_add_seeking id (exactRound nameOf names entries).1 name
  rw [← partnered, count_seeking_exactRound, map_fst_exactRound, List.map_id] at all
  omega

/-- A round among names none of which is left among the entries makes no exact pair. -/
theorem countP_isExact_claim {agrees : String → α → Bool} {pairs : List (String × Option α)}
    (unnamed : ∀ name ∈ seeking id pairs, name ∉ entries.map nameOf) :
    (claim agrees pairs entries).1.countP (isExact nameOf name) =
      pairs.countP (isExact nameOf name) := by
  induction pairs generalizing entries with
  | nil => rfl
  | cons pair rest ih =>
      obtain ⟨other, _ | a⟩ := pair
      · rw [seeking_cons_none, List.forall_mem_cons] at unnamed
        rcases takeFirst_cases (agrees other) entries with
          ⟨taken, -⟩ | ⟨a, left, taken, -, perm⟩
        · simp only [claim, taken, List.countP_cons, ih unnamed.2]
        · have fewer : ∀ name ∈ seeking id rest, name ∉ left.map nameOf := by
            intro name sought among
            refine unnamed.2 name sought ((perm.map nameOf).mem_iff.mpr ?_)
            exact List.mem_cons_of_mem _ among
          have differs : nameOf a ≠ other := by
            intro same
            refine unnamed.1 ((perm.map nameOf).mem_iff.mpr ?_)
            exact same ▸ List.mem_cons_self ..
          have inexact : isExact nameOf name (other, some a) = false := by
            simp only [isExact, Option.any_some, Bool.and_eq_false_iff, beq_eq_false_iff_ne]
            by_cases here : other = name
            · exact .inr (here ▸ differs)
            · exact .inl here
          have unpaired : isExact nameOf name (other, (none : Option α)) = false := by
            simp [isExact]
          simp only [claim, taken, List.countP_cons, ih fewer, inexact, unpaired]
      · rw [seeking_cons_some] at unnamed
        simp only [claim, List.countP_cons, ih unnamed]

/-! ### Both rounds together -/

/-- **Names and entries of a class do not both stay alone**: up to letter case, the names without
a partner are those beyond the entries, and the entries that are left are those beyond the
names. -/
theorem unpartnered_and_unclaimed (nameOf : α → String) (names : List String) (entries : List α)
    (k : List Char) :
    (seeking foldCase (bothRounds nameOf names entries).1).count k =
        (names.map foldCase).count k - (entries.map fun a => foldCase (nameOf a)).count k ∧
      ((bothRounds nameOf names entries).2.map fun a => foldCase (nameOf a)).count k =
        (entries.map fun a => foldCase (nameOf a)).count k - (names.map foldCase).count k := by
  have same : ∀ name a, (nameOf a == name) = true → foldCase (nameOf a) = foldCase name :=
    fun _ _ agree => congrArg foldCase (beq_iff_eq.mp agree)
  have balance := claim_balance same (names.map fun name => (name, none)) entries k
  rw [seeking_unpaired] at balance
  have seeking := count_seeking_claim foldCase (fun a => foldCase (nameOf a))
    (exactRound nameOf names entries).1 (exactRound nameOf names entries).2 k
  have left := count_left_claim foldCase (fun a => foldCase (nameOf a))
    (exactRound nameOf names entries).1 (exactRound nameOf names entries).2 k
  change _ + ((exactRound nameOf names entries).2.map fun a => foldCase (nameOf a)).count k =
    (Pairing.seeking foldCase (exactRound nameOf names entries).1).count k + _ at balance
  constructor
  · refine seeking.trans ?_
    omega
  · refine left.trans ?_
    omega

theorem countP_paired_bothRounds :
    (bothRounds nameOf names entries).1.countP
        (fun pair => sameIgnoringCase pair.1 name && pair.2.isSome) =
      min (names.countP (sameIgnoringCase · name))
        (entries.countP fun a => sameIgnoringCase (nameOf a) name) := by
  have all := count_partnered_add_seeking foldCase (bothRounds nameOf names entries).1
    (foldCase name)
  rw [(unpartnered_and_unclaimed ..).1, map_fst_bothRounds] at all
  have wanted : (names.map foldCase).count (foldCase name) =
      names.countP (sameIgnoringCase · name) := by
    rw [List.count_eq_countP, List.countP_map]
    rfl
  have offered : (entries.map fun a => foldCase (nameOf a)).count (foldCase name) =
      entries.countP fun a => sameIgnoringCase (nameOf a) name := by
    rw [List.count_eq_countP, List.countP_map]
    rfl
  rw [wanted, offered] at all
  have paired : (bothRounds nameOf names entries).1.countP
      (fun pair => sameIgnoringCase pair.1 name && pair.2.isSome) =
        (bothRounds nameOf names entries).1.countP
          fun pair => foldCase pair.1 == foldCase name && pair.2.isSome := rfl
  omega

theorem countP_isExact_bothRounds :
    (bothRounds nameOf names entries).1.countP (isExact nameOf name) =
      min (names.count name) ((entries.map nameOf).count name) := by
  rw [bothRounds, countP_isExact_claim fun _ => unnamed_of_seeking, countP_isExact_exactRound]

theorem same_of_mem_bothRounds {a : α}
    (mem : (name, some a) ∈ (bothRounds nameOf names entries).1) :
    sameIgnoringCase (nameOf a) name := by
  rcases agrees_of_mem_claim mem with before | agree
  · rw [nameOf_of_mem_exactRound before]
    exact sameIgnoringCase_iff.mpr rfl
  · exact agree

/-- The partners and the unclaimed entries are the entries. -/
theorem perm_ofNames (nameOf : α → String) (names : List String) (entries : List α) :
    ((ofNames nameOf names entries).partners.reduceOption ++
      (ofNames nameOf names entries).unclaimed).Perm entries := by
  have start : (names.map fun name => (name, (none : Option α))).filterMap (·.2) = [] := by
    rw [List.filterMap_map, List.filterMap_eq_nil_iff]
    intro _ _
    rfl
  have first : ((exactRound nameOf names entries).1.filterMap (·.2) ++
      (exactRound nameOf names entries).2).Perm entries := by
    have round := perm_claim (fun name a => nameOf a == name)
      (names.map fun name => (name, none)) entries
    rw [start, List.nil_append] at round
    exact round
  have partners : (ofNames nameOf names entries).partners.reduceOption =
      (bothRounds nameOf names entries).1.filterMap (·.2) := by
    rw [ofNames_eq_bothRounds, List.reduceOption, List.filterMap_map]
    rfl
  rw [partners]
  exact (perm_claim ..).trans first

/-- No name stays alone while an entry of its class is left. -/
theorem not_same_of_unpartnered {a : α} (alone : (name, none) ∈ names.zip
      (ofNames nameOf names entries).partners)
    (left : a ∈ (ofNames nameOf names entries).unclaimed) :
    ¬ sameIgnoringCase (nameOf a) name := by
  intro same
  obtain ⟨unpartnered, unclaimed⟩ :=
    unpartnered_and_unclaimed nameOf names entries (foldCase name)
  have beyond : 0 < (seeking foldCase (bothRounds nameOf names entries).1).count
      (foldCase name) := by
    rw [zip_partners] at alone
    refine List.count_pos_iff.mpr ?_
    exact List.mem_map_of_mem (List.mem_filter.mpr ⟨alone, rfl⟩)
  have short : 0 < ((bothRounds nameOf names entries).2.map fun a => foldCase (nameOf a)).count
      (foldCase name) := by
    refine List.count_pos_iff.mpr ?_
    exact sameIgnoringCase_iff.mp same ▸ List.mem_map_of_mem left
  omega

end Both

/-! ### The places of the partners -/

section Places

variable {nameOf : α → String} {names : List String} {entries : List α}

/-- Pairing looks at the names of entries and at nothing else of them. -/
theorem ofNames_map (nameOf : α → String) (g : β → α) (names : List String) (entries : List β) :
    ofNames nameOf names (entries.map g) =
      { partners := (ofNames (fun b => nameOf (g b)) names entries).partners.map (·.map g)
        unclaimed := (ofNames (fun b => nameOf (g b)) names entries).unclaimed.map g } := by
  have start : names.map (fun name => (name, (none : Option α))) =
      (names.map fun name => (name, (none : Option β))).map
        fun pair => (pair.1, pair.2.map g) := by
    rw [List.map_map]
    rfl
  have first : exactRound nameOf names (entries.map g) =
      ((exactRound (fun b => nameOf (g b)) names entries).1.map
          fun pair => (pair.1, pair.2.map g),
        (exactRound (fun b => nameOf (g b)) names entries).2.map g) := by
    rw [exactRound, start, claim_map]
    rfl
  have second : bothRounds nameOf names (entries.map g) =
      ((bothRounds (fun b => nameOf (g b)) names entries).1.map
          fun pair => (pair.1, pair.2.map g),
        (bothRounds (fun b => nameOf (g b)) names entries).2.map g) := by
    rw [bothRounds, first, claim_map]
    rfl
  rw [ofNames_eq_bothRounds, second, ofNames_eq_bothRounds, List.map_map, List.map_map]
  rfl

/-- The places of the entries that the names take. -/
def places (nameOf : α → String) (names : List String) (entries : List α) : List (Option Nat) :=
  (ofNames (fun entry => nameOf entry.1) names entries.zipIdx).partners.map (·.map (·.2))

/-- The places that are taken are places of entries, none of them twice. -/
theorem nodup_places : (places nameOf names entries).reduceOption.Nodup := by
  have perm := (perm_ofNames (fun entry => nameOf entry.1) names entries.zipIdx).map (·.2)
  have distinct : (entries.zipIdx.map (·.2)).Nodup := by
    rw [List.zipIdx_map_snd]
    exact List.nodup_range'
  have taken := (perm.nodup_iff.mpr distinct)
  rw [List.map_append] at taken
  rw [places, List.reduceOption_map]
  exact (List.nodup_append.mp taken).1

/-- The partners are the entries at the places that are taken. -/
theorem map_getElem?_places :
    (places nameOf names entries).map (·.bind (entries[·]?)) =
      (ofNames nameOf names entries).partners := by
  have numbered : ∀ entry, some entry ∈
      (ofNames (fun entry => nameOf entry.1) names entries.zipIdx).partners →
        entries[entry.2]? = some entry.1 := by
    intro entry mem
    have perm := perm_ofNames (fun entry => nameOf entry.1) names entries.zipIdx
    refine List.mem_zipIdx_iff_getElem?.mp (perm.subset ?_)
    exact List.mem_append_left _ (List.reduceOption_mem_iff.mpr mem)
  have named := ofNames_map nameOf Prod.fst names entries.zipIdx
  rw [List.zipIdx_map_fst] at named
  rw [named, places, List.map_map]
  refine List.map_congr_left fun partner mem => ?_
  cases partner with
  | none => rfl
  | some entry => exact numbered entry mem

theorem length_places : (places nameOf names entries).length = names.length := by
  rw [places, List.length_map, ofNames_eq_bothRounds, List.length_map, ← List.length_map (·.1),
    map_fst_bothRounds]

theorem lt_of_mem_places {k : Nat} (mem : k ∈ (places nameOf names entries).reduceOption) :
    k < entries.length := by
  have perm := (perm_ofNames (fun entry => nameOf entry.1) names entries.zipIdx).map (·.2)
  rw [List.map_append, List.zipIdx_map_snd] at perm
  rw [places, List.reduceOption_map] at mem
  have among := perm.subset (List.mem_append_left _ mem)
  simpa using among

end Places

/-! ### Maximum matchings -/

/-- `IsMaximum nameOf names entries pairing places`: the pairing is a matching of the names with
the entries at the places, exact names first, and there is none with more pairs. -/
structure IsMaximum (nameOf : α → String) (names : List String) (entries : List α)
    (pairing : Pairing α) (places : List (Option Nat)) : Prop where
  /-- Every name has a place or none, and its partner is the entry at the place. -/
  length : places.length = names.length
  partners : pairing.partners = places.map (·.bind (entries[·]?))
  inRange : ∀ k ∈ places.reduceOption, k < entries.length
  /-- No entry goes to two names. -/
  injective : places.reduceOption.Nodup
  /-- What goes to no name is left over. -/
  unclaimed : (pairing.partners.reduceOption ++ pairing.unclaimed).Perm entries
  /-- A name and its partner are equal up to letter case. -/
  same : ∀ name a, (name, some a) ∈ names.zip pairing.partners → sameIgnoringCase (nameOf a) name
  /-- For each name, as many pairs are exact as there can be. -/
  exact : ∀ name,
    (names.zip pairing.partners).countP (isExact nameOf name) =
      min (names.count name) ((entries.map nameOf).count name)
  /-- For each class of names that are equal up to letter case, there are as many pairs as there
  can be. -/
  classes : ∀ name,
    (names.zip pairing.partners).countP
        (fun pair => sameIgnoringCase pair.1 name && pair.2.isSome) =
      min (names.countP (sameIgnoringCase · name))
        (entries.countP fun a => sameIgnoringCase (nameOf a) name)

/-- **Every pairing is a maximum matching**, whatever names come more than once. -/
theorem isMaximum_ofNames (nameOf : α → String) (names : List String) (entries : List α) :
    IsMaximum nameOf names entries (ofNames nameOf names entries)
      (places nameOf names entries) where
  length := length_places
  partners := map_getElem?_places.symm
  inRange := fun _ => lt_of_mem_places
  injective := nodup_places
  unclaimed := perm_ofNames nameOf names entries
  same := fun name a mem => same_of_mem_bothRounds (zip_partners ▸ mem)
  exact := fun name => by rw [zip_partners, countP_isExact_bothRounds]
  classes := fun name => by rw [zip_partners, countP_paired_bothRounds]

end CollectionSchema.Pairing
