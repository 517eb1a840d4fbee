import CollectionSchema.Text.LetterCase
import Mathlib.Algebra.GroupWithZero.Nat
import Mathlib.Algebra.Order.BigOperators.Group.List
import Mathlib.Algebra.Order.Group.Nat

/-!
Case mappings and the properties of letter case.

The tables of letter case are runs of code points. That two runs have no code point in common can
be read off their bounds (`CharRun.apart`), so what the tables say of each other is decided run by
run, and no character is looked at. Only the ASCII characters, whose case is no matter of tables,
are gone through one by one: `forall_ascii`.

* `lowerChar_of_isLowercase`, `upperChar_of_isUppercase`: a lowercase character is its own
  lowercase, and an uppercase character its own uppercase.
* `lowerChar_ne_nil`, `upperChar_ne_nil`: no character is mapped to nothing.
* `sum_spread_lowerChar_le`, `sum_spread_upperChar_le`: a character that a mapping makes longer is
  mapped to characters that no mapping makes longer.
-/

namespace CollectionSchema

/-! ### Runs without a common code point -/

namespace CharRun

variable {r s : CharRun} {n : Nat}

/-- Whether the code points of a run are all even or all odd. -/
def keepsParity (r : CharRun) : Bool :=
  Nat.beq r.step 2 || Nat.beq r.first r.last

-- `Nat.blt` and `Nat.beq`, as the kernel computes with these: whole tables are compared below.
/-- Whether two runs are apart: one ends before the other begins, or one takes even code points and
the other odd ones. -/
def apart (r s : CharRun) : Bool :=
  Nat.blt r.last s.first || Nat.blt s.last r.first ||
    (r.keepsParity && s.keepsParity && !Nat.beq (r.first % 2) (s.first % 2))

/-- The run of one code point. -/
def single (n : Nat) : CharRun :=
  ⟨n, n, 1⟩

theorem contains_iff :
    r.contains n ↔ r.first ≤ n ∧ n ≤ r.last ∧ (n - r.first) % r.step = 0 := by
  simp [contains, and_assoc]

theorem contains_single (n : Nat) : (single n).contains n :=
  contains_iff.mpr ⟨le_refl n, le_refl n, Nat.mod_one _⟩

theorem mod_two_of_contains (keeps : r.keepsParity) (mem : r.contains n) :
    n % 2 = r.first % 2 := by
  obtain ⟨lower, upper, aligned⟩ := contains_iff.mp mem
  have shape : r.step = 2 ∨ r.first = r.last := by simpa [keepsParity] using keeps
  rcases shape with two | one
  · rw [two] at aligned
    omega
  · omega

theorem not_contains_of_apart (apart : r.apart s) (mem : r.contains n) : ¬ s.contains n := by
  intro other
  have ⟨lower, upper, _⟩ := contains_iff.mp mem
  have ⟨lower', upper', _⟩ := contains_iff.mp other
  have why : (r.last < s.first ∨ s.last < r.first) ∨
      (r.keepsParity ∧ s.keepsParity) ∧ Nat.beq (r.first % 2) (s.first % 2) = false := by
    simpa [CharRun.apart] using apart
  rcases why with (before | after) | ⟨⟨keeps, keeps'⟩, parity⟩
  · omega
  · omega
  · exact Nat.ne_of_beq_eq_false parity
      ((mod_two_of_contains keeps mem).symm.trans (mod_two_of_contains keeps' other))

end CharRun

namespace CaseRun

variable {r : CaseRun} {n m : Nat}

/-- The code points that a mapping moves. -/
def points (r : CaseRun) : CharRun :=
  ⟨r.first, r.last, r.step⟩

-- Both sides of a comparison are shifted up, so that no negative number is computed with.
/-- Whether a run moves nothing onto a code point, by its bounds or by parity. -/
def misses (r : CaseRun) (n : Nat) : Bool :=
  Nat.blt (n + (-r.shift).toNat) (r.first + r.shift.toNat) ||
    Nat.blt (r.last + r.shift.toNat) (n + (-r.shift).toNat) ||
    (Nat.beq r.step 2 &&
      !Nat.beq ((n + (-r.shift).toNat) % 2) ((r.first + r.shift.toNat) % 2))

theorem contains_points (r : CaseRun) (n : Nat) : r.points.contains n = r.contains n :=
  rfl

theorem ne_of_misses (misses : r.misses n) (moves : r.contains m) : (m : Int) + r.shift ≠ n := by
  intro onto
  obtain ⟨lower, upper, aligned⟩ := CharRun.contains_iff.mp ((contains_points r m).trans moves)
  simp only [points] at lower upper aligned
  have why : (n + (-r.shift).toNat < r.first + r.shift.toNat ∨
      r.last + r.shift.toNat < n + (-r.shift).toNat) ∨
      r.step = 2 ∧
        Nat.beq ((n + (-r.shift).toNat) % 2) ((r.first + r.shift.toNat) % 2) = false := by
    simpa [CaseRun.misses] using misses
  rcases why with (before | after) | ⟨two, parity⟩
  · omega
  · omega
  · rw [two] at aligned
    have := Nat.ne_of_beq_eq_false parity
    omega

end CaseRun

namespace Text

/-! ### What a mapping gives -/

section Mapping

variable {runs : List CaseRun} {special : List (Nat × List Nat)} {c : Char}

theorem mem_of_lookup {codes : List Nat} {n : Nat} (found : special.lookup n = some codes) :
    (n, codes) ∈ special := by
  obtain ⟨before, after, rfl, -⟩ := List.lookup_eq_some_iff.mp found
  simp

/-- A mapping gives what its tables have, or leaves the character alone. -/
theorem mapCase_cases (runs : List CaseRun) (special : List (Nat × List Nat)) (c : Char) :
    (∃ codes, (c.toNat, codes) ∈ special ∧ mapCase runs special c = codes.map Char.ofNat) ∨
    (∃ run ∈ runs, run.contains c.toNat ∧
      mapCase runs special c = [Char.ofNat ((c.toNat : Int) + run.shift).toNat]) ∨
    mapCase runs special c = [c] := by
  rw [mapCase]
  cases several : special.lookup c.toNat with
  | some codes => exact .inl ⟨codes, mem_of_lookup several, rfl⟩
  | none =>
      cases moved : runs.find? (·.contains c.toNat) with
      | some run =>
          have mem := List.mem_of_find?_eq_some moved
          have contains := List.find?_some moved
          exact .inr (.inl ⟨run, mem, contains, rfl⟩)
      | none => exact .inr (.inr rfl)

/-- The code points that a mapping has in its tables. -/
def mapped (runs : List CaseRun) (special : List (Nat × List Nat)) : List CharRun :=
  runs.map CaseRun.points ++ special.map fun entry => .single entry.1

/-- A mapping leaves alone what has a property apart from its tables. -/
theorem mapCase_of_apart {property : List CharRun}
    (apart : property.all fun p => (mapped runs special).all p.apart)
    (has : property.any (·.contains c.toNat)) : mapCase runs special c = [c] := by
  obtain ⟨p, memProperty, contains⟩ := List.any_eq_true.mp has
  have untouched : ∀ r ∈ mapped runs special, ¬ r.contains c.toNat := fun r mem =>
    CharRun.not_contains_of_apart
      (List.all_eq_true.mp (List.all_eq_true.mp apart p memProperty) r mem) contains
  rcases mapCase_cases runs special c with ⟨codes, mem, -⟩ | ⟨run, mem, moves, -⟩ | alone
  · have entry := List.mem_map_of_mem (f := fun entry => CharRun.single entry.1) mem
    exact absurd (CharRun.contains_single _) (untouched _ (List.mem_append_right _ entry))
  · have points := List.mem_map_of_mem (f := CaseRun.points) mem
    exact absurd moves (untouched _ (List.mem_append_left _ points))
  · exact alone

theorem mapCase_ne_nil (nonempty : special.all fun entry => !entry.2.isEmpty) :
    mapCase runs special c ≠ [] := by
  rcases mapCase_cases runs special c with ⟨codes, mem, several⟩ | ⟨run, -, -, moved⟩ | alone
  · have := List.all_eq_true.mp nonempty _ mem
    simpa [several] using this
  · simp [moved]
  · simp [alone]

end Mapping

/-! ### ASCII characters -/

/-- What holds of the ASCII characters one by one, holds of all. -/
@[elab_as_elim]
theorem forall_ascii {motive : Char → Prop} {c : Char} (ascii : c.toNat < 128)
    (each : ∀ n : Fin 128, motive (Char.ofNat n)) : motive c := by
  have own := each ⟨c.toNat, ascii⟩
  rwa [Char.ofNat_toNat] at own

/-! ### Characters in their own case -/

section OwnCase

variable {c : Char}

/-- A lowercase character is its own lowercase. -/
theorem lowerChar_of_isLowercase (lower : isLowercase c) : lowerChar c = [c] := by
  rw [isLowercase] at lower
  rw [lowerChar]
  split at lower
  case isTrue ascii =>
    have own : c.isLower → c.toLower = c := forall_ascii ascii (by decide +kernel)
    rw [if_pos ascii, own lower]
  case isFalse ascii =>
    rw [if_neg ascii]
    exact mapCase_of_apart (by decide +kernel) lower

/-- An uppercase character is its own uppercase. -/
theorem upperChar_of_isUppercase (upper : isUppercase c) : upperChar c = [c] := by
  rw [isUppercase] at upper
  rw [upperChar]
  split at upper
  case isTrue ascii =>
    have own : c.isUpper → c.toUpper = c := forall_ascii ascii (by decide +kernel)
    rw [if_pos ascii, own upper]
  case isFalse ascii =>
    rw [if_neg ascii]
    exact mapCase_of_apart (by decide +kernel) upper

theorem lowerChar_ne_nil (c : Char) : lowerChar c ≠ [] := by
  rw [lowerChar]
  split
  · simp
  · exact mapCase_ne_nil (by decide)

theorem upperChar_ne_nil (c : Char) : upperChar c ≠ [] := by
  rw [upperChar]
  split
  · simp
  · exact mapCase_ne_nil (by decide)

end OwnCase

/-! ### Characters that become several -/

/-- The characters that a mapping makes longer, and capital sharp s, which becomes one of them. -/
def growing : List Nat :=
  0x1E9E :: (lowerSpecial ++ upperSpecial).map Prod.fst

/-- Whether a code point is a growing one. -/
def grows (n : Nat) : Bool :=
  growing.any (Nat.beq n)

/-- A bound on the characters that a code point can become: three for one that grows. -/
def spreadOf (n : Nat) : Nat :=
  if grows n then 3 else 1

/-- A bound on the characters that one can become. -/
def spread (c : Char) : Nat :=
  spreadOf c.toNat

theorem grows_iff {n : Nat} : grows n ↔ n ∈ growing := by
  simp [grows]

theorem one_le_spreadOf (n : Nat) : 1 ≤ spreadOf n := by
  rw [spreadOf]
  split <;> omega

theorem spreadOf_le (n : Nat) : spreadOf n ≤ 3 := by
  rw [spreadOf]
  split <;> omega

theorem spreadOf_of_grows {n : Nat} (growth : grows n) : spreadOf n = 3 :=
  if_pos growth

theorem spreadOf_of_not_grows {n : Nat} (single : ¬ grows n) : spreadOf n = 1 :=
  if_neg single

theorem one_le_spread (c : Char) : 1 ≤ spread c :=
  one_le_spreadOf c.toNat

/-- Code points that are no characters do not grow. -/
theorem spread_ofNat_le (n : Nat) : spread (Char.ofNat n) ≤ spreadOf n := by
  by_cases valid : n.isValidChar
  · rw [Char.ofNat, dif_pos valid]
    exact le_refl (spreadOf n)
  · rw [Char.ofNat, dif_neg valid]
    exact (spreadOf_of_not_grows (by decide)).trans_le (one_le_spreadOf n)

section Spread

variable {runs : List CaseRun} {special : List (Nat × List Nat)} {c : Char}

/-- Whether a mapping turns only growing characters into growing ones, and no character into more
than it may. -/
def settles (runs : List CaseRun) (special : List (Nat × List Nat)) : Bool :=
  (special.all fun entry => grows entry.1 && Nat.ble (entry.2.map spreadOf).sum 3) &&
    runs.all fun run => growing.all fun n =>
      run.misses n || grows ((n : Int) - run.shift).toNat

theorem grows_of_moved {run : CaseRun} (ok : settles runs special) (mem : run ∈ runs) {n : Nat}
    (moves : run.contains n) (growth : grows ((n : Int) + run.shift).toNat) : grows n := by
  -- A growing code point is positive, so it is where the shift leads, not where it is cut off.
  have positive : ((n : Int) + run.shift).toNat ≠ 0 := by
    intro zero
    rw [zero] at growth
    exact absurd growth (by decide)
  rw [settles, Bool.and_eq_true] at ok
  have check := List.all_eq_true.mp (List.all_eq_true.mp ok.2 run mem) _ (grows_iff.mp growth)
  rcases Bool.or_eq_true_iff.mp check with misses | grown
  · have apart := CaseRun.ne_of_misses misses moves
    omega
  · have back : ((((n : Int) + run.shift).toNat : Int) - run.shift).toNat = n := by omega
    rwa [back] at grown

/-- **Growth is used up**: what a character becomes has no greater bound than the character. -/
theorem sum_spread_mapCase_le (ok : settles runs special) :
    ((mapCase runs special c).map spread).sum ≤ spread c := by
  rcases mapCase_cases runs special c with ⟨codes, mem, several⟩ | ⟨run, mem, moves, moved⟩ | alone
  · rw [settles, Bool.and_eq_true] at ok
    have check := List.all_eq_true.mp ok.1 _ mem
    have ⟨growth, few⟩ : grows c.toNat ∧ (codes.map spreadOf).sum ≤ 3 := by simpa using check
    have bound : (codes.map (spread ∘ Char.ofNat)).sum ≤ (codes.map spreadOf).sum :=
      List.sum_le_sum fun n _ => spread_ofNat_le n
    rw [several, List.map_map, spread, spreadOf_of_grows growth]
    exact bound.trans few
  · have bound := spread_ofNat_le ((c.toNat : Int) + run.shift).toNat
    rw [moved]
    by_cases growth : grows ((c.toNat : Int) + run.shift).toNat
    · rw [spread, spreadOf_of_grows (grows_of_moved ok mem moves growth)]
      exact bound.trans (spreadOf_le _)
    · rw [spreadOf_of_not_grows growth] at bound
      exact bound.trans (one_le_spread c)
  · rw [alone]
    exact le_refl (spread c)

theorem spread_toLower_le (ascii : c.toNat < 128) : spread c.toLower ≤ 1 :=
  forall_ascii ascii (by decide +kernel)

theorem spread_toUpper_le (ascii : c.toNat < 128) : spread c.toUpper ≤ 1 :=
  forall_ascii ascii (by decide +kernel)

theorem sum_spread_lowerChar_le (c : Char) : ((lowerChar c).map spread).sum ≤ spread c := by
  rw [lowerChar]
  split
  case isTrue ascii => exact (spread_toLower_le ascii).trans (one_le_spread c)
  case isFalse ascii => exact sum_spread_mapCase_le (by decide +kernel)

theorem sum_spread_upperChar_le (c : Char) : ((upperChar c).map spread).sum ≤ spread c := by
  rw [upperChar]
  split
  case isTrue ascii => exact (spread_toUpper_le ascii).trans (one_le_spread c)
  case isFalse ascii => exact sum_spread_mapCase_le (by decide +kernel)

end Spread

end Text

end CollectionSchema
