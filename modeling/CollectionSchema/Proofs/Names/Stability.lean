import CollectionSchema.Proofs.Names.CamelCase
import Mathlib.Algebra.BigOperators.Group.List.Basic
import Mathlib.Algebra.Order.BigOperators.Group.List
import Mathlib.Data.List.Induction
import Mathlib.Data.String.Basic

/-!
Names that camel case leaves alone.

A name may be given for an identifier again, and is then split anew. What came from one-letter
words, as `aBC` from `a_b_c`, is split elsewhere: only capitals that stand where words begin are
found again.

* `Stable`: letters and digits only, every capital after a lowercase letter, or after an uppercase
  one and before a lowercase one.
* `alone_segmentWords`: what the words of a segment become, in step with how it is split.
* `camelCase_eq_self_iff`: the stable names are those that camel case leaves alone.
* `WordsApart.camelCase_camelCase`: ASCII identifiers that give stable names.
-/

namespace CollectionSchema.Text

/-! ### Where a capital may stand -/

/-- The last of some characters that has a letter case. -/
def lastCased (cs : List Char) : Option Char :=
  cs.reverse.find? fun c => isLowercase c || isUppercase c

/-- A word begins at a character: it is uppercase, and the letter before it is lowercase, or is
uppercase with a lowercase letter next. -/
structure OpensWord (before : List Char) (c : Char) (after : List Char) : Prop where
  uppercase : isUppercase c
  after_letter : ∃ b ∈ lastCased before,
    isLowercase b ∨ isUppercase b ∧ ∃ d ∈ after.head?, isLowercase d

/-- A name of letters and digits, each character that has another lowercase opening a word. -/
structure Stable (name : String) : Prop where
  alphanumeric : ∀ c ∈ name.toList, isAlphanumeric c
  capital : ∀ before c after, name.toList = before ++ c :: after → lowerChar c ≠ [c] →
    OpensWord before c after

/-- A word of some trend ends before a character, as words are split. -/
def Breaks (t : Trend) (c : Char) (rest : List Char) : Prop :=
  isUppercase c ∧ (t = .lower ∨ t = .upper ∧ ∃ d ∈ rest.head?, isLowercase d)

/-- What the capitals of text must do that follows a word of some trend. -/
def StableAfter : Trend → List Char → Prop
  | _, [] => True
  | t, c :: rest => (lowerChar c = [c] ∨ Breaks t c rest) ∧ StableAfter (t.next c) rest

/-! ### Words left alone -/

section Words

variable {c : Char} {word : List Char} {ws : List (List Char)}

/-- Text that is joined from two parts, no part longer in the result, is unchanged only if both
parts are. -/
theorem append_eq_append_iff_of_length_le {α : Type} {a a' b b' : List α}
    (front : a.length ≤ a'.length) (back : b.length ≤ b'.length) :
    a' ++ b' = a ++ b ↔ a' = a ∧ b' = b := by
  constructor
  · intro same
    have total := congrArg List.length same
    rw [List.length_append, List.length_append] at total
    exact List.append_inj same (by omega)
  · rintro ⟨rfl, rfl⟩
    rfl

theorem one_le_length_lowerChar (c : Char) : 1 ≤ (lowerChar c).length :=
  List.length_pos_of_ne_nil (lowerChar_ne_nil c)

theorem one_le_length_upperChar (c : Char) : 1 ≤ (upperChar c).length :=
  List.length_pos_of_ne_nil (upperChar_ne_nil c)

/-- Camel case makes no text shorter. -/
theorem partByPart_length :
    PartByPart (fun _ => True) fun made text => text.length ≤ made.length where
  nil := le_refl _
  append := by
    intro a a' b b' front back
    rw [List.length_append, List.length_append]
    omega
  lower := fun _ => one_le_length_lowerChar _
  upper := fun _ => one_le_length_upperChar _
  sigma := fun _ => le_refl _

theorem length_le_length_lowerWord (word : List Char) :
    word.length ≤ (lowerWord word).length :=
  partByPart_length.lowerWord fun _ _ => trivial

theorem length_le_length_joinUpperCamel (ws : List (List Char)) :
    ws.flatten.length ≤ (joinUpperCamel ws).length :=
  partByPart_length.joinUpperCamel fun _ _ _ _ => trivial

@[simp]
theorem lowerWord_nil : lowerWord [] = [] :=
  rfl

/-- A word is in lowercase if each character is. A capital sigma is not, wherever it stands. -/
@[simp]
theorem lowerWord_cons_eq_self_iff :
    lowerWord (c :: word) = c :: word ↔ lowerChar c = [c] ∧ lowerWord word = word := by
  cases word with
  | nil =>
      by_cases sigma : c = 'Σ'
      · subst sigma
        decide
      · simp [lowerWord, sigma]
  | cons d rest =>
      rw [lowerWord, ← List.singleton_append (x := c)]
      · exact append_eq_append_iff_of_length_le (one_le_length_lowerChar c)
          (length_le_length_lowerWord _)
      · simp

@[simp]
theorem capitalize_cons_eq_self_iff :
    capitalize (c :: word) = c :: word ↔ upperChar c = [c] ∧ lowerWord word = word := by
  rw [capitalize, ← List.singleton_append (x := c)]
  exact append_eq_append_iff_of_length_le (one_le_length_upperChar c)
    (length_le_length_lowerWord word)

/-- Words that upper camel case joins as they are. -/
def UpperAlone (ws : List (List Char)) : Prop :=
  joinUpperCamel ws = ws.flatten

/-- Words that camel case joins as they are. -/
def LowerAlone (ws : List (List Char)) : Prop :=
  joinLowerCamel ws = ws.flatten

@[simp]
theorem upperAlone_nil : UpperAlone [] :=
  rfl

@[simp]
theorem lowerAlone_nil : LowerAlone [] :=
  rfl

@[simp]
theorem upperAlone_cons : UpperAlone (word :: ws) ↔ capitalize word = word ∧ UpperAlone ws :=
  append_eq_append_iff_of_length_le (partByPart_length.capitalize fun _ _ => trivial)
    (length_le_length_joinUpperCamel ws)

@[simp]
theorem lowerAlone_cons : LowerAlone (word :: ws) ↔ lowerWord word = word ∧ UpperAlone ws :=
  append_eq_append_iff_of_length_le (length_le_length_lowerWord word)
    (length_le_length_joinUpperCamel ws)

@[simp]
theorem lowerAlone_consHead :
    LowerAlone (consHead c ws) ↔ lowerChar c = [c] ∧ LowerAlone ws := by
  cases ws <;> simp [consHead, and_assoc]

@[simp]
theorem upperAlone_consHead :
    UpperAlone (consHead c ws) ↔ upperChar c = [c] ∧ LowerAlone ws := by
  cases ws <;> simp [consHead, and_assoc]

end Words

/-! ### Segments left alone -/

section Segments

variable {t t' : Trend} {c : Char} {rest : List Char}

theorem isLowercase_of_next (next : t.next c = .lower) (upper : isUppercase c) :
    isLowercase c := by
  by_contra other
  rw [Trend.next, if_neg other, if_pos upper] at next
  cases next

/-- An uppercase character leaves nothing of the trend before it. -/
theorem next_eq_of_isUppercase (upper : isUppercase c) (t t' : Trend) : t.next c = t'.next c := by
  simp [Trend.next, upper]

theorem stableAfter_of_breaks (breaks : Breaks t c rest) :
    StableAfter t (c :: rest) ↔ StableAfter (t.next c) rest := by
  simp [StableAfter, breaks]

theorem stableAfter_of_isUppercase (upper : isUppercase c) (t : Trend) :
    StableAfter .lower (c :: rest) ↔ StableAfter (t.next c) rest := by
  rw [stableAfter_of_breaks ⟨upper, .inl rfl⟩, next_eq_of_isUppercase upper .lower t]

theorem stableAfter_of_not_breaks (within : Breaks t c rest → lowerChar c = [c]) :
    StableAfter t (c :: rest) ↔ lowerChar c = [c] ∧ StableAfter (t.next c) rest := by
  rw [StableAfter, or_iff_left_of_imp within]

theorem stableAfter_of_isLowercase (lower : isLowercase c) (t : Trend) :
    StableAfter t (c :: rest) ↔ StableAfter .lower rest := by
  simp [StableAfter, lowerChar_of_isLowercase lower, Trend.next, lower]

/-- **The words of a segment are left alone** if its capitals stand where words begin. The first
word may have begun before; then it does not end at once. After a lowercase letter that the segment
breaks, all its words are capitalized. -/
theorem alone_segmentWords (t : Trend) (cs : List Char) :
    ((t = .lower → ∀ c ∈ cs.head?, ¬ isUppercase c) →
      (LowerAlone (segmentWords t cs) ↔ StableAfter t cs)) ∧
    (t = .fresh → (∀ c ∈ cs.head?, isUppercase c) →
      (UpperAlone (segmentWords t cs) ↔ StableAfter .lower cs)) := by
  -- Both at once: a break ends lowercase words and leaves words that are all capitalized.
  fun_induction segmentWords t cs with
  | case1 t => simp [StableAfter]
  | case2 t c =>
      refine ⟨fun begun => ?_, fun _ upper => ?_⟩
      · have within : Breaks t c [] → lowerChar c = [c] := by
          rintro ⟨upper, rfl | ⟨-, d, next, -⟩⟩
          · exact absurd upper (begun rfl c rfl)
          · cases next
        rw [stableAfter_of_not_breaks within]
        simp [StableAfter]
      · have initial := upper c rfl
        rw [stableAfter_of_isUppercase initial .lower]
        simp [StableAfter, upperChar_of_isUppercase initial]
  | case3 t c d rest split ih =>
      -- The word ends with `c`.
      have others := ih.2 rfl (by simpa using split.2)
      refine ⟨fun _ => ?_, fun _ upper => ?_⟩
      · have within : Breaks t c (d :: rest) → lowerChar c = [c] := fun breaks =>
          lowerChar_of_isLowercase (isLowercase_of_next split.1 breaks.1)
        rw [stableAfter_of_not_breaks within, split.1, ← others]
        simp
      · have initial := upper c rfl
        rw [stableAfter_of_isUppercase initial t, split.1, ← others]
        simp [upperChar_of_isUppercase initial]
  | case4 t c d rest _ split ih =>
      -- The word ends before `c`, which is the initial of the next one.
      obtain ⟨rfl, upper, lower⟩ := split
      have breaks : Breaks .upper c (d :: rest) := ⟨upper, .inr ⟨rfl, d, rfl, lower⟩⟩
      refine ⟨fun _ => ?_, fun fresh => by cases fresh⟩
      rw [stableAfter_of_breaks breaks, stableAfter_of_isLowercase lower,
        ← stableAfter_of_isLowercase lower .fresh, ← ih.1 (by simp)]
      simp [upperChar_of_isUppercase upper]
  | case5 t c d rest unbroken unbroken' ih =>
      -- The word goes on after `c`.
      have others := ih.1 fun next e mem upper => by
        cases mem
        exact unbroken ⟨next, upper⟩
      refine ⟨fun begun => ?_, fun _ upper => ?_⟩
      · have within : Breaks t c (d :: rest) → lowerChar c = [c] := by
          rintro ⟨upper, before | ⟨before, e, next, lower⟩⟩
          · exact absurd upper (begun before c rfl)
          · cases next
            exact absurd ⟨before, upper, lower⟩ unbroken'
        rw [stableAfter_of_not_breaks within, ← others]
        simp
      · have initial := upper c rfl
        rw [stableAfter_of_isUppercase initial t, ← others]
        simp [upperChar_of_isUppercase initial]

end Segments

/-! ### Where words begin -/

section Positions

variable {before : List Char} {c : Char} {after : List Char}

theorem lastCased_concat (cs : List Char) (c : Char) :
    lastCased (cs ++ [c]) = if isLowercase c || isUppercase c then some c else lastCased cs := by
  rw [lastCased, List.reverse_append, List.reverse_singleton, List.singleton_append,
    List.find?_cons]
  cases isLowercase c || isUppercase c <;> rfl

/-- The trend of text is the case of its last character that has one. -/
theorem foldl_next (before : List Char) :
    before.foldl Trend.next .fresh =
      match lastCased before with
      | none => .fresh
      | some b => if isLowercase b then .lower else .upper := by
  induction before using List.reverseRecOn with
  | nil => rfl
  | append_singleton cs c ih =>
      rw [List.foldl_append, List.foldl_cons, List.foldl_nil, lastCased_concat]
      by_cases lower : isLowercase c
      · simp [Trend.next, lower]
      · by_cases upper : isUppercase c
        · simp [Trend.next, lower, upper]
        · simp [Trend.next, lower, upper, ih]

theorem breaks_iff_opensWord :
    Breaks (before.foldl Trend.next .fresh) c after ↔ OpensWord before c after := by
  rw [foldl_next]
  constructor
  · rintro ⟨upper, place⟩
    refine ⟨upper, ?_⟩
    cases last : lastCased before with
    | none => simp [last] at place
    | some b =>
        have cased : isLowercase b ∨ isUppercase b := by
          simpa using List.find?_some last
        by_cases lower : isLowercase b
        · exact ⟨b, rfl, .inl lower⟩
        · simp only [last, lower] at place
          simpa [lower, cased.resolve_left lower] using place
  · rintro ⟨upper, b, last, place⟩
    refine ⟨upper, ?_⟩
    rw [Option.mem_def.mp last]
    by_cases lower : isLowercase b
    · simp [lower]
    · have next := place.resolve_left lower
      simpa [lower] using next.2

/-- What is asked of text after a word is asked of each of its capitals. -/
theorem stableAfter_iff (t : Trend) (cs : List Char) :
    StableAfter t cs ↔ ∀ before c after, cs = before ++ c :: after → lowerChar c ≠ [c] →
      Breaks (before.foldl Trend.next t) c after := by
  induction cs generalizing t with
  | nil => simp [StableAfter]
  | cons d rest ih =>
      rw [StableAfter, ih]
      constructor
      · rintro ⟨first, others⟩ before c after split capital
        cases before with
        | nil =>
            cases split
            exact first.resolve_left capital
        | cons e before =>
            cases split
            exact others before c after rfl capital
      · intro all
        refine ⟨?_, fun before c after split capital => ?_⟩
        · by_cases fixed : lowerChar d = [d]
          · exact .inl fixed
          · exact .inr (all [] d rest rfl fixed)
        · exact all (d :: before) c after (by rw [split, List.cons_append]) capital

end Positions

/-! ### Separators -/

section Separators

variable {cs : List Char}

/-- Camel case spreads no text further. -/
theorem partByPart_spread :
    PartByPart (fun _ => True) fun made text =>
      (made.map spread).sum ≤ (text.map spread).sum where
  nil := le_refl _
  append := by
    intro a a' b b' front back
    rw [List.map_append, List.map_append, List.sum_append, List.sum_append]
    omega
  lower := fun _ => sum_spread_lowerChar_le _
  upper := fun _ => sum_spread_upperChar_le _
  sigma := fun _ => by decide +kernel

/-- A character that is taken out of text lowers the bound on what the text can become. -/
theorem all_of_sum_spread_filter {p : Char → Bool}
    (kept : (cs.map spread).sum ≤ ((cs.filter p).map spread).sum) : ∀ c ∈ cs, p c := by
  intro c mem
  by_contra separator
  have parts : ((cs.filter p).map spread).sum + ((cs.filter (!p ·)).map spread).sum =
      (cs.map spread).sum := by
    simpa using List.sum_map_filter_add_sum_map_filter_not (p · = true) spread cs
  have removed : c ∈ cs.filter (!p ·) := List.mem_filter.mpr ⟨mem, by simpa using separator⟩
  have part := List.le_sum_of_mem (List.mem_map_of_mem (f := spread) removed)
  have bound := one_le_spread c
  omega

/-- Text that camel case leaves alone has no separators: they would be gone, and no character that
becomes several makes up for one. -/
theorem isAlphanumeric_of_joinLowerCamel_words (alone : joinLowerCamel (words cs) = cs) :
    ∀ c ∈ cs, isAlphanumeric c := by
  have bound : ((joinLowerCamel (words cs)).map spread).sum ≤
      ((words cs).flatten.map spread).sum :=
    partByPart_spread.joinLowerCamel fun _ _ _ _ => trivial
  rw [alone, flatten_words] at bound
  exact all_of_sum_spread_filter bound

theorem segments_of_isAlphanumeric (letters : ∀ c ∈ cs, isAlphanumeric c) :
    segments cs = [cs] := by
  induction cs with
  | nil => rfl
  | cons c rest ih =>
      rw [segments, if_pos (letters c (List.mem_cons_self ..)),
        ih fun d mem => letters d (List.mem_cons_of_mem _ mem)]
      rfl

/-- Without separators there is one segment. -/
theorem words_of_isAlphanumeric (letters : ∀ c ∈ cs, isAlphanumeric c) :
    words cs = segmentWords .fresh cs := by
  rw [words, segments_of_isAlphanumeric letters, List.flatMap_singleton]

end Separators

/-! ### Stable names -/

theorem joinLowerCamel_words_eq_self_iff {cs : List Char}
    (letters : ∀ c ∈ cs, isAlphanumeric c) :
    joinLowerCamel (words cs) = cs ↔ StableAfter .fresh cs := by
  rw [words_of_isAlphanumeric letters,
    ← (alone_segmentWords .fresh cs).1 (fun fresh => by cases fresh), LowerAlone,
    flatten_segmentWords]

/-- **Camel case leaves exactly the stable names alone.** -/
theorem camelCase_eq_self_iff (name : String) : camelCase name = name ↔ Stable name := by
  rw [camelCase, String.ofList_eq]
  constructor
  · intro fixed
    have letters := isAlphanumeric_of_joinLowerCamel_words fixed
    have after := (joinLowerCamel_words_eq_self_iff letters).mp fixed
    refine ⟨letters, fun before c rest split capital => ?_⟩
    exact breaks_iff_opensWord.mp ((stableAfter_iff _ _).mp after before c rest split capital)
  · rintro ⟨letters, capital⟩
    refine (joinLowerCamel_words_eq_self_iff letters).mpr ((stableAfter_iff _ _).mpr ?_)
    intro before c rest split other
    exact breaks_iff_opensWord.mpr (capital before c rest split other)

instance (name : String) : Decidable (Stable name) :=
  decidable_of_iff _ (camelCase_eq_self_iff name)

example : Stable "orderUrlPath2" ∧ ¬ Stable "aBC" := by decide +kernel

/-! ### ASCII identifiers -/

section Ascii

variable {t : Trend} {c : Char} {cs rest word : List Char} {ws : List (List Char)}

theorem toNat_lt_of_isAlphanum (letter : c.isAlphanum) : c.toNat < 128 := by
  rcases Bool.or_eq_true_iff.mp letter with alpha | digit
  · rcases Bool.or_eq_true_iff.mp alpha with upper | lower
    · have below : c.toNat ≤ 90 := (of_decide_eq_true upper).2
      omega
    · have below : c.toNat ≤ 122 := of_decide_eq_true (Bool.and_eq_true_iff.mp lower).2
      omega
  · have below : c.toNat ≤ 57 := of_decide_eq_true (Bool.and_eq_true_iff.mp digit).2
    omega

theorem isAlphanum_toLower (letter : c.isAlphanum) : c.toLower.isAlphanum := by
  have kept : c.isAlphanum → c.toLower.isAlphanum :=
    forall_ascii (toNat_lt_of_isAlphanum letter) (by decide +kernel)
  exact kept letter

theorem isAlphanum_toUpper (letter : c.isAlphanum) : c.toUpper.isAlphanum := by
  have kept : c.isAlphanum → c.toUpper.isAlphanum :=
    forall_ascii (toNat_lt_of_isAlphanum letter) (by decide +kernel)
  exact kept letter

/-- Text in lowercase asks nothing of its characters, and the text after it follows its trend. -/
theorem stableAfter_append (lower : ∀ c ∈ cs, lowerChar c = [c]) :
    StableAfter t (cs ++ rest) ↔ StableAfter (cs.foldl Trend.next t) rest := by
  induction cs generalizing t with
  | nil => rfl
  | cons c cs ih =>
      rw [List.cons_append, StableAfter, ih fun d mem => lower d (List.mem_cons_of_mem _ mem)]
      exact and_iff_right (.inl (lower c (List.mem_cons_self ..)))

theorem foldl_next_eq_lower (plain : ∀ c ∈ cs, ¬ isUppercase c)
    (lower : t = .lower ∨ ∃ c ∈ cs, isLowercase c) : cs.foldl Trend.next t = .lower := by
  induction cs generalizing t with
  | nil => exact lower.resolve_right (by simp)
  | cons c cs ih =>
      refine ih (fun d mem => plain d (List.mem_cons_of_mem _ mem)) ?_
      have caseless := plain c (List.mem_cons_self ..)
      rw [List.exists_mem_cons_iff] at lower
      rcases lower with rfl | here | later
      · exact .inl (by simp [Trend.next, caseless])
      · exact .inl (if_pos here)
      · exact .inr later

section Letters

variable (letters : ∀ c ∈ word, c.isAlphanum)
include letters

theorem lowerWord_of_isAlphanum : lowerWord word = word.map Char.toLower :=
  lowerWord_of_ascii fun c mem => toNat_lt_of_isAlphanum (letters c mem)

theorem stableAfter_map_toLower :
    StableAfter t (word.map Char.toLower ++ rest) ↔
      StableAfter ((word.map Char.toLower).foldl Trend.next t) rest := by
  refine stableAfter_append fun d mem => ?_
  obtain ⟨c, memWord, rfl⟩ := List.mem_map.mp mem
  have again : c.toLower.toLower = c.toLower :=
    forall_ascii (toNat_lt_of_isAlphanum (letters c memWord)) (by decide +kernel)
  rw [lowerChar_of_ascii (toNat_lt_of_isAlphanum (isAlphanum_toLower (letters c memWord))), again]

theorem foldl_next_map_toLower (letter : ∃ c ∈ word, c.isAlpha) (t : Trend) :
    (word.map Char.toLower).foldl Trend.next t = .lower := by
  have ascii {c : Char} (mem : c ∈ word) : c.toLower.toNat < 128 :=
    toNat_lt_of_isAlphanum (isAlphanum_toLower (letters c mem))
  obtain ⟨d, memD, alpha⟩ := letter
  refine foldl_next_eq_lower (fun e mem => ?_) (.inr ⟨_, List.mem_map_of_mem memD, ?_⟩)
  · obtain ⟨c, memC, rfl⟩ := List.mem_map.mp mem
    rw [isUppercase, if_pos (ascii memC)]
    exact forall_ascii (toNat_lt_of_isAlphanum (letters c memC)) (by decide +kernel)
  · rw [isLowercase, if_pos (ascii memD)]
    have lowered : d.isAlpha → d.toLower.isLower :=
      forall_ascii (toNat_lt_of_isAlphanum (letters d memD)) (by decide +kernel)
    exact lowered alpha

end Letters

/-- After a lowercase letter, the capital of a word may stand. -/
theorem stableAfter_capitalize_cons (letters : ∀ d ∈ c :: word, d.isAlphanum) :
    StableAfter .lower (capitalize (c :: word) ++ rest) ↔
      StableAfter ((word.map Char.toLower).foldl Trend.next (Trend.next .lower c.toUpper))
        rest := by
  have letter := letters c (List.mem_cons_self ..)
  have first := isAlphanum_toUpper letter
  have ascii := toNat_lt_of_isAlphanum first
  have opens : lowerChar c.toUpper = [c.toUpper] ∨
      Breaks .lower c.toUpper (word.map Char.toLower ++ rest) := by
    by_cases upper : c.toUpper.isUpper
    · exact .inr ⟨by rw [isUppercase, if_pos ascii, upper], .inl rfl⟩
    · have own : ¬ c.toUpper.isUpper → c.toUpper.toLower = c.toUpper :=
        forall_ascii (toNat_lt_of_isAlphanum letter) (by decide +kernel)
      exact .inl (by rw [lowerChar_of_ascii ascii, own upper])
  rw [capitalize_cons_of_ascii fun d mem => toNat_lt_of_isAlphanum (letters d mem),
    List.cons_append, StableAfter, and_iff_right opens,
    stableAfter_map_toLower fun d mem => letters d (List.mem_cons_of_mem _ mem)]

/-- Words of which all but the last have a letter that is not the initial, after a lowercase
letter. -/
theorem stableAfter_joinUpperCamel (letters : ∀ word ∈ ws, ∀ c ∈ word, c.isAlphanum)
    (inner : ∀ word ∈ ws.dropLast, ∃ c ∈ word.tail, c.isAlpha) :
    StableAfter .lower (joinUpperCamel ws) := by
  induction ws with
  | nil => trivial
  | cons word ws ih =>
      have own := letters word (List.mem_cons_self ..)
      have others : joinUpperCamel (word :: ws) = capitalize word ++ joinUpperCamel ws := rfl
      rw [others]
      cases ws with
      | nil =>
          cases word with
          | nil => trivial
          | cons c word => exact (stableAfter_capitalize_cons own).mpr trivial
      | cons next ws =>
          rw [List.dropLast_cons_cons, List.forall_mem_cons] at inner
          have later := ih (fun word mem => letters word (List.mem_cons_of_mem _ mem)) inner.2
          cases word with
          | nil => exact later
          | cons c word =>
              rw [stableAfter_capitalize_cons own, foldl_next_map_toLower
                (fun d mem => own d (List.mem_cons_of_mem _ mem)) inner.1]
              exact later

theorem stableAfter_joinLowerCamel (letters : ∀ word ∈ ws, ∀ c ∈ word, c.isAlphanum)
    (first : ∀ word ∈ ws.head?, ∃ c ∈ word, c.isAlpha)
    (inner : ∀ word ∈ ws.tail.dropLast, ∃ c ∈ word.tail, c.isAlpha) :
    StableAfter .fresh (joinLowerCamel ws) := by
  cases ws with
  | nil => trivial
  | cons word ws =>
      have own := letters word (List.mem_cons_self ..)
      have others := stableAfter_joinUpperCamel
        (fun word mem => letters word (List.mem_cons_of_mem _ mem)) inner
      rw [joinLowerCamel, lowerWord_of_isAlphanum own, stableAfter_map_toLower own,
        foldl_next_map_toLower own (first word rfl)]
      exact others

theorem partByPart_isAlphanum :
    PartByPart (·.isAlphanum) fun made _ => ∀ c ∈ made, c.isAlphanum where
  nil := nofun
  append := fun front back => List.forall_mem_append.mpr ⟨front, back⟩
  lower := by
    intro c letter
    rw [lowerChar_of_ascii (toNat_lt_of_isAlphanum letter), List.forall_mem_singleton]
    exact isAlphanum_toLower letter
  upper := by
    intro c letter
    rw [upperChar_of_ascii (toNat_lt_of_isAlphanum letter), List.forall_mem_singleton]
    exact isAlphanum_toUpper letter
  sigma := fun letter => absurd letter (by decide)

/-- The words of an ASCII identifier whose first word has a letter, and in which each word between
it and the last has a letter that is not its initial. -/
structure WordsApart (ident : String) : Prop where
  ascii : IsAscii ident
  first : ∀ word ∈ (words ident.toList).head?, ∃ c ∈ word, c.isAlpha
  inner : ∀ word ∈ (words ident.toList).tail.dropLast, ∃ c ∈ word.tail, c.isAlpha

-- By `List.any`, since the characters there are would be searched for one that is in the word.
instance (ident : String) : Decidable (WordsApart ident) :=
  decidable_of_iff
    (IsAscii ident ∧ (∀ word ∈ (words ident.toList).head?, word.any Char.isAlpha) ∧
      ∀ word ∈ (words ident.toList).tail.dropLast, word.tail.any Char.isAlpha)
    ⟨fun ⟨ascii, first, inner⟩ => ⟨ascii, by simpa using first, by simpa using inner⟩,
      fun ⟨ascii, first, inner⟩ => ⟨ascii, by simpa using first, by simpa using inner⟩⟩

/-- **Identifiers of longer words give stable names.** -/
theorem WordsApart.camelCase_camelCase {ident : String} (apart : WordsApart ident) :
    camelCase (camelCase ident) = camelCase ident := by
  have letters : ∀ word ∈ words ident.toList, ∀ c ∈ word, c.isAlphanum := by
    intro word memWord c mem
    have joined : c ∈ (words ident.toList).flatten := List.mem_flatten_of_mem memWord mem
    rw [flatten_words] at joined
    have kept := List.of_mem_filter joined
    rwa [isAlphanumeric, if_pos (apart.ascii.words word memWord c mem)] at kept
  have given : (camelCase ident).toList = joinLowerCamel (words ident.toList) :=
    String.toList_ofList
  rw [camelCase, String.ofList_eq, given, joinLowerCamel_words_eq_self_iff]
  · exact stableAfter_joinLowerCamel letters apart.first apart.inner
  · intro c mem
    have letter := partByPart_isAlphanum.joinLowerCamel letters c mem
    rwa [isAlphanumeric, if_pos (toNat_lt_of_isAlphanum letter)]

end Ascii

end CollectionSchema.Text
