import CollectionSchema.Collection.Basic
import Mathlib.Data.List.Nodup
import Mathlib.Data.List.Sort
import Mathlib.Order.Nat

/-!
The names that come again.

A collection reports the names that are not unique in their scope. `ListsRepeated` says what such a
report is without saying how it is made: every name that comes at least twice, each once, in the
order in which the names come for a given time. This leaves one list only.

* `listsRepeated_repeated`: the report goes by the second time, since a name is found to be repeated
  when it comes the second time.
* `Collection.nameClashes_exact`: the clashes of a collection are those of the properties and
  references together, and then those of the vectors.
* `not_firstSeen`: the order of the first time is another one.
-/

namespace CollectionSchema

variable {names : List String} {a b : String}

/-! ### Lists of repeated names -/

/-- By the time that `b` has come so many times, `a` has. -/
def ComesBefore (times : Nat) (names : List String) (a b : String) : Prop :=
  ∀ i, times ≤ (names.take i).count b → times ≤ (names.take i).count a

/-- `ListsRepeated times names listed`: the names that come at least twice are listed once each, in
the order in which they come for the given time. -/
structure ListsRepeated (times : Nat) (names listed : List String) : Prop where
  mem_iff : ∀ name, name ∈ listed ↔ 2 ≤ names.count name
  nodup : listed.Nodup
  order : listed.Pairwise (ComesBefore times names)

/-- One more name of a list is at most one more time that a name has come. -/
theorem count_take_succ (names : List String) (i : Nat) (a : String) :
    (names.take (i + 1)).count a =
      (names.take i).count a + if names[i]? = some a then 1 else 0 := by
  rw [List.take_add_one, List.count_append]
  cases names[i]? with
  | none => simp
  | some name =>
      by_cases same : name = a
      · simp [same]
      · simp [same]

/-- Two names do not come for the same time at once. -/
theorem ComesBefore.antisymm {times : Nat} (positive : 0 < times) (comes : times ≤ names.count a)
    (before : ComesBefore times names a b) (after : ComesBefore times names b a) : a = b := by
  have reached : ∃ i, times ≤ (names.take i).count a :=
    ⟨names.length, by rwa [List.take_length]⟩
  -- The first `i` names that have `a` so many times end in `a`, and in `b` for the same reason.
  obtain ⟨i, least⟩ : ∃ i, Nat.find reached = i + 1 := by
    refine Nat.exists_eq_succ_of_ne_zero fun none => ?_
    have comes := Nat.find_spec reached
    rw [none, List.take_zero, List.count_nil] at comes
    omega
  have comesA : times ≤ (names.take (i + 1)).count a := least ▸ Nat.find_spec reached
  have fewerA : ¬ times ≤ (names.take i).count a := Nat.find_min reached (by omega)
  have comesB := after (i + 1) comesA
  have fewerB : ¬ times ≤ (names.take i).count b := fun comes => fewerA (before i comes)
  rw [count_take_succ] at comesA comesB
  split at comesA
  next hereA =>
    split at comesB
    next hereB => exact Option.some.inj (hereA.symm.trans hereB)
    next => omega
  next => omega

/-- There is one list of the repeated names in the order of a time that all of them come. -/
theorem ListsRepeated.eq {times : Nat} {listed others : List String} (positive : 0 < times)
    (atMostTwo : times ≤ 2) (lists : ListsRepeated times names listed)
    (lists' : ListsRepeated times names others) : listed = others := by
  have perm : listed.Perm others := by
    refine (List.perm_ext_iff_of_nodup lists.nodup lists'.nodup).mpr fun name => ?_
    rw [lists.mem_iff, lists'.mem_iff]
  refine perm.eq_of_pairwise ?_ lists.order lists'.order
  intro a b memA _ before after
  exact before.antisymm positive (atMostTwo.trans ((lists.mem_iff a).mp memA)) after

/-! ### The second time -/

section RepeatedAfter

variable {earlier : List String}

theorem mem_repeatedAfter_iff :
    a ∈ repeatedAfter earlier names ↔
      earlier.count a ≤ 1 ∧ 2 ≤ earlier.count a + names.count a := by
  induction names generalizing earlier with
  | nil =>
      rw [repeatedAfter, List.count_nil]
      simp only [List.not_mem_nil, false_iff]
      omega
  | cons name rest ih =>
      rw [repeatedAfter]
      by_cases same : a = name
      · subst same
        split
        next once =>
          rw [List.count_cons_self]
          simp only [List.mem_cons, true_or, true_iff]
          omega
        next notOnce =>
          rw [ih, List.count_cons_self, List.count_cons_self]
          omega
      · have other : name ≠ a := fun h => same h.symm
        split
        next => rw [List.mem_cons, or_iff_right same, ih, List.count_cons_of_ne other,
            List.count_cons_of_ne other]
        next => rw [ih, List.count_cons_of_ne other, List.count_cons_of_ne other]

/-- A name is listed where it comes the second time, so that those listed later come the second
time later. -/
theorem pairwise_repeatedAfter (earlier names : List String) :
    (repeatedAfter earlier names).Pairwise fun a b =>
      a ≠ b ∧ ∀ i, 2 ≤ earlier.count b + (names.take i).count b →
        2 ≤ earlier.count a + (names.take i).count a := by
  induction names generalizing earlier with
  | nil => exact .nil
  | cons name rest ih =>
      have later : (repeatedAfter (name :: earlier) rest).Pairwise fun a b =>
          a ≠ b ∧ ∀ i, 2 ≤ earlier.count b + ((name :: rest).take i).count b →
            2 ≤ earlier.count a + ((name :: rest).take i).count a := by
        refine (ih (name :: earlier)).imp_of_mem ?_
        rintro a b - memB ⟨distinct, order⟩
        refine ⟨distinct, fun i comes => ?_⟩
        cases i with
        | zero =>
            -- Before `name`, no name that is listed later has come twice.
            have once := (mem_repeatedAfter_iff.mp memB).1
            rw [List.count_cons] at once
            rw [List.take_zero, List.count_nil] at comes
            omega
        | succ i =>
            have comesA := order i
            rw [List.count_cons, List.count_cons] at comesA
            rw [List.take_succ_cons, List.count_cons] at comes ⊢
            omega
      rw [repeatedAfter]
      split
      next once =>
        refine List.pairwise_cons.mpr ⟨fun b memB => ?_, later⟩
        have onceB := (mem_repeatedAfter_iff.mp memB).1
        have distinct : name ≠ b := by
          rintro rfl
          rw [List.count_cons_self] at onceB
          omega
        refine ⟨distinct, fun i comes => ?_⟩
        cases i with
        | zero =>
            rw [List.count_cons_of_ne distinct] at onceB
            rw [List.take_zero, List.count_nil] at comes
            omega
        | succ i =>
            rw [List.take_succ_cons, List.count_cons_self]
            omega
      next => exact later

end RepeatedAfter

theorem mem_repeated_iff : a ∈ repeated names ↔ 2 ≤ names.count a := by
  rw [repeated, mem_repeatedAfter_iff, List.count_nil]
  omega

/-- **Repeated names are listed by the second time** that they come. -/
theorem listsRepeated_repeated (names : List String) : ListsRepeated 2 names (repeated names) := by
  have order := pairwise_repeatedAfter [] names
  simp only [List.count_nil, Nat.zero_add] at order
  exact
    { mem_iff := fun _ => mem_repeated_iff
      nodup := order.imp And.left
      order := order.imp And.right }

/-! ### The clashes of a collection -/

namespace Collection

/-- **The clashes of a collection**: the names that come at least twice among the properties and
references together, and then those that do among the vectors, each once and in the order in which
they come the second time. Nothing else is listed so. -/
theorem nameClashes_exact (c : Collection) :
    (∃ members vectors, ListsRepeated 2 c.memberNames members ∧
        ListsRepeated 2 c.vectorNames vectors ∧
          c.nameClashes = members.map (NameClash.mk .property) ++
            vectors.map (NameClash.mk .vector)) ∧
      ∀ members vectors, ListsRepeated 2 c.memberNames members →
        ListsRepeated 2 c.vectorNames vectors →
          c.nameClashes = members.map (NameClash.mk .property) ++
            vectors.map (NameClash.mk .vector) := by
  have members := listsRepeated_repeated c.memberNames
  have vectors := listsRepeated_repeated c.vectorNames
  refine ⟨⟨_, _, members, vectors, rfl⟩, ?_⟩
  intro others others' lists lists'
  rw [lists.eq (by decide) (by decide) members, lists'.eq (by decide) (by decide) vectors]
  rfl

end Collection

/-! ### A loan whose names cross

Its two names come again in the other order. -/

def loan : Collection where
  name := "Loan"
  properties := [.ofKind "owner" .text, .ofKind "borrower" .text]
  references := [
    { name := "borrower", target := "Person" },
    { name := "owner", target := "Person" }]

theorem listsRepeated_loan :
    ListsRepeated 2 loan.memberNames ["borrower", "owner"] ∧
      ListsRepeated 2 loan.vectorNames [] := by
  have members : repeated loan.memberNames = ["borrower", "owner"] := by decide
  have vectors : repeated loan.vectorNames = [] := by decide
  exact ⟨members ▸ listsRepeated_repeated _, vectors ▸ listsRepeated_repeated _⟩

theorem nameClashes_exact_loan :
    ListsRepeated 2 loan.memberNames ["borrower", "owner"] ∧
      ListsRepeated 2 loan.vectorNames [] ∧
      loan.nameClashes = [⟨.property, "borrower"⟩, ⟨.property, "owner"⟩] := by
  obtain ⟨members, vectors⟩ := listsRepeated_loan
  exact ⟨members, vectors, loan.nameClashes_exact.2 _ _ members vectors⟩

/-- The clashes of a collection are not listed by the first time that their names come. -/
theorem not_firstSeen :
    ¬ ∃ members vectors, ListsRepeated 1 loan.memberNames members ∧
      ListsRepeated 1 loan.vectorNames vectors ∧
        loan.nameClashes = members.map (NameClash.mk .property) ++
          vectors.map (NameClash.mk .vector) := by
  rintro ⟨members, vectors, lists, lists', clashes⟩
  obtain rfl : vectors = [] := by
    refine List.eq_nil_iff_forall_not_mem.mpr fun name mem => ?_
    exact absurd ((lists'.mem_iff name).mp mem) (by simp [loan, Collection.vectorNames])
  have listed : (["borrower", "owner"].map (NameClash.mk .property)) =
      members.map (NameClash.mk .property) := by
    rw [List.map_nil, List.append_nil] at clashes
    exact clashes
  obtain rfl : ["borrower", "owner"] = members :=
    List.map_injective_iff.mpr (fun _ _ same => (NameClash.mk.inj same).2) listed
  have before : ComesBefore 1 loan.memberNames "borrower" "owner" :=
    List.rel_of_pairwise_cons lists.order (List.mem_singleton_self _)
  -- The owner comes first.
  exact absurd (before 1) (by decide)

end CollectionSchema
