/-!
Escapes: what may follow a backslash inside quotes.

`Escapes` says which escapes a format has, and `Escapes.read?` reads one of them. It always leaves
less than it was given, so a reader of quoted texts can go on with the rest.
-/

namespace CollectionSchema.Text

/-- The value of a hexadecimal digit. -/
def hexDigit? (c : Char) : Option Nat :=
  if c.isDigit then some (c.toNat - '0'.toNat)
  else if 'a' ≤ c ∧ c ≤ 'f' then some (c.toNat - 'a'.toNat + 10)
  else if 'A' ≤ c ∧ c ≤ 'F' then some (c.toNat - 'A'.toNat + 10)
  else none

/-- The character with a code, if there is one. -/
def charOfCode? (code : Nat) : Option Char :=
  if code.isValidChar then some (Char.ofNat code) else none

/-- The number that so many hexadecimal digits give, behind those read already, and what follows
them. -/
def hexCode? : (count value : Nat) → List Char → Option (Nat × List Char)
  | 0, value, cs => some (value, cs)
  | _ + 1, _, [] => none
  | count + 1, value, c :: cs =>
    (hexDigit? c).bind fun digit => hexCode? count (16 * value + digit) cs

/-- The escapes of a format: the letters that stand for one character, and the letters before the
code of a character, with the number of its hexadecimal digits. -/
structure Escapes where
  letters : List (Char × Char)
  codes : List (Char × Nat)
deriving Repr

/-- The character of the escape at the beginning of a text, and what follows it. -/
def Escapes.read? (escapes : Escapes) : List Char → Option (Char × List Char)
  | [] => none
  | c :: rest =>
    match escapes.letters.lookup c with
    | some plain => some (plain, rest)
    | none =>
      (escapes.codes.lookup c).bind fun count =>
        (hexCode? count 0 rest).bind fun (code, left) =>
          (charOfCode? code).map fun plain => (plain, left)

theorem length_of_hexCode? {count value code : Nat} {cs left : List Char}
    (h : hexCode? count value cs = some (code, left)) : left.length ≤ cs.length := by
  induction count generalizing value cs with
  | zero =>
    obtain ⟨-, rfl⟩ := Prod.mk.inj (Option.some.inj h)
    exact Nat.le_refl _
  | succ count ih =>
    match cs with
    | [] => nomatch h
    | c :: rest =>
      obtain ⟨digit, -, h⟩ := Option.bind_eq_some_iff.1 h
      exact Nat.le_succ_of_le (ih h)

/-- An escape takes at least one character. -/
theorem Escapes.length_of_read? {escapes : Escapes} {cs left : List Char} {plain : Char}
    (h : escapes.read? cs = some (plain, left)) : left.length < cs.length := by
  match cs with
  | [] => nomatch h
  | c :: rest =>
    simp only [Escapes.read?] at h
    split at h
    · obtain ⟨-, rfl⟩ := Prod.mk.inj (Option.some.inj h)
      exact Nat.lt_succ_self _
    · obtain ⟨count, -, h⟩ := Option.bind_eq_some_iff.1 h
      obtain ⟨⟨code, after⟩, hcode, h⟩ := Option.bind_eq_some_iff.1 h
      obtain ⟨_, -, h⟩ := Option.map_eq_some_iff.1 h
      obtain ⟨-, rfl⟩ := Prod.mk.inj h
      exact Nat.lt_succ_of_le (length_of_hexCode? hcode)

end CollectionSchema.Text
