import CollectionSchema.Proofs.Names.CaseMapping
import CollectionSchema.Text.Words
import Mathlib.Data.List.Basic

/-!
Camel case keeps the letters and digits of an identifier.

However an identifier falls into words, the words joined are its letters and digits, in order:
`flatten_words`. Camel case then changes nothing but the case of letters, at least of ASCII
letters; the lowercase and uppercase of other characters may be several characters.

* `foldCase_camelCase`, `foldCase_upperCamelCase`: up to the case of letters, both camel-case forms
  are the letters and digits of the identifier.
* `isUpper_of_head_camelCase`, `isLower_of_head_upperCamelCase`: how they may begin.
-/

namespace CollectionSchema.Text

/-! ### Words -/

@[simp]
theorem flatten_consHead (c : Char) (ws : List (List Char)) :
    (consHead c ws).flatten = c :: ws.flatten := by
  cases ws with
  | nil => rfl
  | cons word words => rfl

/-- The words of a segment are the segment, wherever it is split. -/
theorem flatten_segmentWords (t : Trend) (cs : List Char) : (segmentWords t cs).flatten = cs := by
  fun_induction segmentWords t cs with
  | case1 => rfl
  | case2 => rfl
  | case3 t c d rest _ ih => rw [List.flatten_cons, ih, List.singleton_append]
  | case4 t c d rest _ _ ih => rw [List.flatten_cons, List.nil_append, flatten_consHead, ih]
  | case5 t c d rest _ _ ih => rw [flatten_consHead, ih]

theorem flatten_segments (cs : List Char) :
    (segments cs).flatten = cs.filter isAlphanumeric := by
  induction cs with
  | nil => rfl
  | cons c rest ih =>
      rw [segments]
      by_cases alphanumeric : isAlphanumeric c
      · rw [if_pos alphanumeric, flatten_consHead, ih, List.filter_cons_of_pos alphanumeric]
      · rw [if_neg alphanumeric, List.flatten_cons, List.nil_append, ih,
          List.filter_cons_of_neg alphanumeric]

/-- **No character is lost**: the words of an identifier, joined, are its letters and digits. -/
theorem flatten_words (ident : List Char) :
    (words ident).flatten = ident.filter isAlphanumeric := by
  have kept : (words ident).flatten = (segments ident).flatten := by
    rw [words, List.flatMap, List.flatten_flatten, List.map_map]
    congr 1
    exact (List.map_congr_left fun cs _ => flatten_segmentWords .fresh cs).trans (List.map_id' _)
  rw [kept, flatten_segments]

theorem ne_nil_of_head_consHead {c : Char} {ws : List (List Char)} {word : List Char}
    (first : word ∈ (consHead c ws).head?) : word ≠ [] := by
  cases ws with
  | nil => cases first; simp
  | cons other words => cases first; simp

/-- A segment begins with a word of at least one character. -/
theorem ne_nil_of_head_segmentWords {cs word : List Char}
    (first : word ∈ (segmentWords .fresh cs).head?) : word ≠ [] := by
  match cs with
  | [] => cases first
  | [c] => cases first; simp
  | c :: d :: rest =>
      rw [segmentWords] at first
      split at first
      · cases first; simp
      · -- Nothing before the segment ends in uppercase.
        rw [if_neg (by simp)] at first
        exact ne_nil_of_head_consHead first

/-- The first word of an identifier has at least one character. -/
theorem ne_nil_of_head_words {ident word : List Char} (first : word ∈ (words ident).head?) :
    word ≠ [] := by
  rw [words, List.head?_flatMap] at first
  obtain ⟨cs, -, head⟩ := List.exists_of_findSome?_eq_some first
  exact ne_nil_of_head_segmentWords head

/-! ### Text part by part -/

/-- A relation that camel case keeps up: it holds of the mappings of characters that satisfy `P`,
and of text if it holds of the parts that the text is joined from. -/
structure PartByPart (P : Char → Prop) (R : List Char → List Char → Prop) : Prop where
  nil : R [] []
  append {a a' b b' : List Char} : R a a' → R b b' → R (a ++ b) (a' ++ b')
  lower {c : Char} : P c → R (lowerChar c) [c]
  upper {c : Char} : P c → R (upperChar c) [c]
  sigma : P 'Σ' → R ['ς'] ['Σ']

namespace PartByPart

variable {P : Char → Prop} {R : List Char → List Char → Prop} (parts : PartByPart P R)
  {word : List Char} {ws : List (List Char)}
include parts

theorem lowerWord (all : ∀ c ∈ word, P c) : R (lowerWord word) word := by
  fun_induction Text.lowerWord word with
  | case1 => exact parts.nil
  | case2 => exact parts.sigma (all 'Σ' (List.mem_cons_self ..))
  | case3 c _ => exact parts.lower (all c (List.mem_cons_self ..))
  | case4 c rest _ ih =>
      rw [List.forall_mem_cons] at all
      exact parts.append (parts.lower all.1) (ih all.2)

theorem capitalize (all : ∀ c ∈ word, P c) : R (capitalize word) word := by
  cases word with
  | nil => exact parts.nil
  | cons c rest =>
      rw [List.forall_mem_cons] at all
      exact parts.append (parts.upper all.1) (parts.lowerWord all.2)

theorem joinUpperCamel (all : ∀ word ∈ ws, ∀ c ∈ word, P c) :
    R (joinUpperCamel ws) ws.flatten := by
  induction ws with
  | nil => exact parts.nil
  | cons word ws ih =>
      rw [List.forall_mem_cons] at all
      exact parts.append (parts.capitalize all.1) (ih all.2)

theorem joinLowerCamel (all : ∀ word ∈ ws, ∀ c ∈ word, P c) :
    R (joinLowerCamel ws) ws.flatten := by
  cases ws with
  | nil => exact parts.nil
  | cons word ws =>
      rw [List.forall_mem_cons] at all
      exact parts.append (parts.lowerWord all.1) (parts.joinUpperCamel all.2)

end PartByPart

/-! ### ASCII characters -/

/-- All characters are ASCII. -/
def IsAscii (s : String) : Prop :=
  ∀ c ∈ s.toList, c.toNat < 128

instance (s : String) : Decidable (IsAscii s) :=
  decidable_of_iff (s.toList.all fun c => c.toNat < 128) (by simp [IsAscii])

/-- The letters and digits of an identifier, with letters in lowercase. -/
def bare (ident : String) : List Char :=
  (ident.toList.filter isAlphanumeric).map Char.toLower

section Ascii

variable {c : Char} {cs : List Char}

theorem lowerChar_of_ascii (ascii : c.toNat < 128) : lowerChar c = [c.toLower] :=
  if_pos ascii

theorem upperChar_of_ascii (ascii : c.toNat < 128) : upperChar c = [c.toUpper] :=
  if_pos ascii

/-- There is no sigma to end an ASCII word. -/
theorem lowerWord_of_ascii (ascii : ∀ c ∈ cs, c.toNat < 128) :
    lowerWord cs = cs.map Char.toLower := by
  fun_induction lowerWord cs with
  | case1 => rfl
  | case2 => exact absurd (ascii 'Σ' (List.mem_cons_self ..)) (by decide)
  | case3 c _ => exact lowerChar_of_ascii (ascii c (List.mem_cons_self ..))
  | case4 c rest _ ih =>
      rw [lowerChar_of_ascii (ascii c (List.mem_cons_self ..)),
        ih fun d mem => ascii d (List.mem_cons_of_mem _ mem)]
      rfl

theorem capitalize_cons_of_ascii (ascii : ∀ d ∈ c :: cs, d.toNat < 128) :
    capitalize (c :: cs) = c.toUpper :: cs.map Char.toLower := by
  rw [capitalize, upperChar_of_ascii (ascii c (List.mem_cons_self ..)),
    lowerWord_of_ascii fun d mem => ascii d (List.mem_cons_of_mem _ mem)]
  rfl

/-- Up to the case of letters, camel case is the text. -/
theorem partByPart_foldCase :
    PartByPart (·.toNat < 128) fun made text => made.map Char.toLower = text.map Char.toLower where
  nil := rfl
  append := by
    intro a a' b b' front back
    rw [List.map_append, List.map_append, front, back]
  lower := by
    intro c ascii
    have again : c.toLower.toLower = c.toLower := forall_ascii ascii (by decide +kernel)
    rw [lowerChar_of_ascii ascii, List.map_singleton, List.map_singleton, again]
  upper := by
    intro c ascii
    have back : c.toUpper.toLower = c.toLower := forall_ascii ascii (by decide +kernel)
    rw [upperChar_of_ascii ascii, List.map_singleton, List.map_singleton, back]
  sigma := fun ascii => absurd ascii (by decide)

end Ascii

/-! ### Camel case -/

section Joined

variable {ws : List (List Char)} (ascii : ∀ word ∈ ws, ∀ c ∈ word, c.toNat < 128)
include ascii

/-- An uppercase form begins with no lowercase letter. -/
theorem isLower_of_head_joinUpperCamel {c : Char} (first : c ∈ (joinUpperCamel ws).head?) :
    c.isLower = false := by
  rw [joinUpperCamel, List.head?_flatMap] at first
  obtain ⟨word, mem, head⟩ := List.exists_of_findSome?_eq_some first
  cases word with
  | nil => cases head
  | cons d rest =>
      rw [capitalize_cons_of_ascii (ascii _ mem)] at head
      cases head
      exact forall_ascii (ascii _ mem d (List.mem_cons_self ..)) (by decide +kernel)

/-- A lowercase form of words, the first of which has characters, begins with no uppercase
letter. -/
theorem isUpper_of_head_joinLowerCamel (begun : ∀ word ∈ ws.head?, word ≠ []) {c : Char}
    (first : c ∈ (joinLowerCamel ws).head?) : c.isUpper = false := by
  cases ws with
  | nil => cases first
  | cons word rest =>
      cases word with
      | nil => exact absurd rfl (begun [] rfl)
      | cons d word =>
          rw [joinLowerCamel, lowerWord_of_ascii (ascii _ (List.mem_cons_self ..))] at first
          cases first
          have plain := ascii _ (List.mem_cons_self ..) d (List.mem_cons_self ..)
          exact forall_ascii plain (by decide +kernel)

end Joined

section Identifier

variable {ident : String} (ascii : IsAscii ident)
include ascii

theorem IsAscii.words : ∀ word ∈ words ident.toList, ∀ c ∈ word, c.toNat < 128 := by
  intro word memWord c mem
  have joined : c ∈ (Text.words ident.toList).flatten := List.mem_flatten_of_mem memWord mem
  rw [flatten_words] at joined
  exact ascii c (List.mem_of_mem_filter joined)

/-- **Camel case is the identifier**, up to the case of letters, without its separators. -/
theorem foldCase_camelCase : foldCase (camelCase ident) = bare ident := by
  rw [foldCase, camelCase, String.toList_ofList, partByPart_foldCase.joinLowerCamel ascii.words,
    flatten_words, bare]

/-- The same of upper camel case. -/
theorem foldCase_upperCamelCase : foldCase (upperCamelCase ident) = bare ident := by
  rw [foldCase, upperCamelCase, String.toList_ofList,
    partByPart_foldCase.joinUpperCamel ascii.words, flatten_words, bare]

theorem isUpper_of_head_camelCase {c : Char} (first : c ∈ (camelCase ident).toList.head?) :
    c.isUpper = false := by
  rw [camelCase, String.toList_ofList] at first
  exact isUpper_of_head_joinLowerCamel ascii.words (fun _ => ne_nil_of_head_words) first

theorem isLower_of_head_upperCamelCase {c : Char}
    (first : c ∈ (upperCamelCase ident).toList.head?) : c.isLower = false := by
  rw [upperCamelCase, String.toList_ofList] at first
  exact isLower_of_head_joinUpperCamel ascii.words first

end Identifier

end CollectionSchema.Text
