import CollectionSchema.Text.Alphanumeric
import CollectionSchema.Text.LetterCase

/-!
Words of an identifier and its two camel-case forms.

An identifier falls into segments at every character that is neither letter nor digit, and a
segment falls into words where the letter case changes: after a lowercase run that meets an
uppercase letter, and before the last uppercase letter of a run that turns to lowercase, so that
`URLPath` is `URL`, `Path`. In camel case every word is lowercased and all words, or all but the
first, get an uppercase initial.
-/

namespace CollectionSchema.Text

/-! ### Words -/

/-- The letter case that the word so far ends in. Characters without case keep it. -/
inductive Trend where
  | fresh
  | lower
  | upper
deriving DecidableEq, Repr

/-- The trend after one more character. -/
def Trend.next (t : Trend) (c : Char) : Trend :=
  if isLowercase c then .lower else if isUppercase c then .upper else t

/-- Puts a character in front of the first of some words. -/
def consHead (c : Char) : List (List Char) → List (List Char)
  | [] => [[c]]
  | word :: words => (c :: word) :: words

/-- The words of the rest of a segment. The first of them continues the word that the trend
describes. -/
def segmentWords (t : Trend) : List Char → List (List Char)
  | [] => []
  | [c] => [[c]]
  | c :: d :: rest =>
    if t.next c = .lower ∧ isUppercase d then
      [c] :: segmentWords .fresh (d :: rest)
    else if t = .upper ∧ isUppercase c ∧ isLowercase d then
      [] :: consHead c (segmentWords .fresh (d :: rest))
    else
      consHead c (segmentWords (t.next c) (d :: rest))

/-- The stretches of letters and digits of an identifier, empty ones between two separators
included. -/
def segments : List Char → List (List Char)
  | [] => [[]]
  | c :: rest => if isAlphanumeric c then consHead c (segments rest) else [] :: segments rest

/-- The words of an identifier. -/
def words (ident : List Char) : List (List Char) :=
  (segments ident).flatMap (segmentWords .fresh)

/-! ### Camel case -/

/-- A word in lowercase. A capital sigma that ends it becomes the final sigma. -/
def lowerWord : List Char → List Char
  | [] => []
  | [c] => if c = 'Σ' then ['ς'] else lowerChar c
  | c :: rest => lowerChar c ++ lowerWord rest

/-- A word with an uppercase initial and the rest in lowercase. -/
def capitalize : List Char → List Char
  | [] => []
  | c :: rest => upperChar c ++ lowerWord rest

/-- Words joined with an uppercase initial on all but the first. -/
def joinLowerCamel : List (List Char) → List Char
  | [] => []
  | word :: rest => lowerWord word ++ rest.flatMap capitalize

/-- Words joined with an uppercase initial on each. -/
def joinUpperCamel (ws : List (List Char)) : List Char :=
  ws.flatMap capitalize

/-- The identifier with a lowercase initial: the default name of a property, reference or
vector. -/
def camelCase (ident : String) : String :=
  String.ofList (joinLowerCamel (words ident.toList))

/-- The identifier with an uppercase initial: the default name of a collection. -/
def upperCamelCase (ident : String) : String :=
  String.ofList (joinUpperCamel (words ident.toList))

/-! ### Letter case of names -/

/-- A name with its ASCII letters in lowercase. -/
def foldCase (s : String) : List Char :=
  s.toList.map Char.toLower

/-- Whether two names are equal up to the case of ASCII letters. -/
def sameIgnoringCase (a b : String) : Bool :=
  foldCase a == foldCase b

end CollectionSchema.Text
