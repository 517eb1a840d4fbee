import CollectionSchema.Text.Quotation

/-!
The lines of a settings file, and what stands on one of them.

A line is an indent and what follows it. What follows is read from left to right: a name up to the
colon that ends it, a plain value up to the comment or the line's end, a quoted text up to its
closing quote. Gaps are spaces and tabs, and a colon or a marker counts only before a gap or at the
end of the line.
-/

namespace CollectionSchema

namespace Settings.Line

/-! ### Characters and lines -/

/-- Whether a file may hold a character: no controls but the tab and the ends of lines, and neither
`U+FFFE` nor `U+FFFF`. -/
def isAllowed (c : Char) : Bool :=
  let n := c.toNat
  n == 0x9 || n == 0xA || n == 0xD || (0x20 ≤ n && n ≤ 0x7E) || n == 0x85 ||
    (0xA0 ≤ n && n != 0xFFFE && n != 0xFFFF)

/-- Whether a character ends a line. -/
def isBreak (c : Char) : Bool :=
  let n := c.toNat
  n == 0xA || n == 0xD || n == 0x85 || n == 0x2028 || n == 0x2029

/-- The lines of a text. A carriage return and a line feed end a line together. -/
def split : List Char → List (List Char)
  | [] => [[]]
  | '\r' :: '\n' :: rest => [] :: split rest
  | c :: rest =>
    if isBreak c then [] :: split rest
    else
      match split rest with
      | [] => [[c]]
      | line :: lines => (c :: line) :: lines

/-- Whether a character is the byte order mark. -/
def isByteOrderMark (c : Char) : Bool :=
  c.toNat == 0xFEFF

/-- A line without its indent, and the width of that. The indent is a row of spaces; a byte order
mark at the very beginning of the line counts as one of them. -/
def unindent : List Char → Nat × List Char
  | [] => (0, [])
  | c :: rest =>
    if c == ' ' || isByteOrderMark c then
      ((rest.takeWhile (· == ' ')).length + 1, rest.dropWhile (· == ' '))
    else (0, c :: rest)

/-! ### What stands on a line -/

/-- Whether a gap or the end of the line comes first. -/
def atGap : List Char → Bool
  | [] => true
  | c :: _ => Text.isGap c

/-- Whether at most a comment is left of a line. -/
def isSpent (cs : List Char) : Bool :=
  match cs.dropWhile Text.isGap with
  | [] => true
  | c :: _ => c == '#'

/-- The indent and the text of a line that says something; `some none` if it is blank or a comment,
and `none` if a tab stands where the indent ends. -/
def content? (line : List Char) : Option (Option (Nat × List Char)) :=
  match unindent line with
  | (_, []) => some none
  | (_, '#' :: _) => some none
  | (_, '\t' :: _) => none
  | (indent, cs) => some (some (indent, cs))

/-- What follows the three hyphens that open a mapping. -/
def afterOpening? : List Char → Option (List Char)
  | '-' :: '-' :: '-' :: rest => if atGap rest then some rest else none
  | _ => none

/-- What follows the three points that end a mapping. -/
def afterEnd? : List Char → Option (List Char)
  | '.' :: '.' :: '.' :: rest => if atGap rest then some rest else none
  | _ => none

/-- Whether a line opens or ends a mapping. -/
def isMarker (line : List Char) : Bool :=
  (afterOpening? line).isSome || (afterEnd? line).isSome

/-- The characters that no plain text begins with. -/
def indicators : List Char :=
  ",[]\x7b\x7d#&*!|>'\"%@\x60".toList

/-- Whether a plain text begins here. A hyphen, a question mark or a colon begins one when no gap
follows. -/
def startsPlain : List Char → Bool
  | [] => false
  | c :: rest =>
    if c = '-' ∨ c = '?' ∨ c = ':' then !atGap rest
    else !Text.isGap c && !indicators.contains c

/-- A plain text up to the end of the line or to the comment behind it, and whether there is such a
comment. A comment stands behind a gap. A colon that would end a name has no place here. -/
def plain? : List Char → Option (List Char × Bool)
  | [] => some ([], false)
  | c :: rest =>
    if c = ':' ∧ atGap rest then none
    else if Text.isGap c ∧ isSpent rest then some ([], !rest.all Text.isGap)
    else (plain? rest).map fun (text, commented) => (c :: text, commented)

/-! ### Names -/

/-- The escapes between double quotes. -/
def escapes : Text.Escapes where
  letters := [
    ('0', '\x00'), ('a', '\x07'), ('b', '\x08'), ('t', '\t'), ('\t', '\t'), ('n', '\n'),
    ('v', '\x0b'), ('f', '\x0c'), ('r', '\r'), ('e', '\x1b'), (' ', ' '), ('"', '"'), ('/', '/'),
    ('\\', '\\'), ('N', '\u0085'), ('_', '\u00a0'), ('L', '\u2028'), ('P', '\u2029')]
  codes := [('x', 2), ('u', 4), ('U', 8)]

/-- What follows the colon that comes first but for a gap. -/
def afterColon? (cs : List Char) : Option (List Char) :=
  match cs.dropWhile Text.isGap with
  | ':' :: rest => if atGap rest then some rest else none
  | _ => none

/-- A plain name up to the colon that ends it, and what follows that colon. -/
def plainName? : List Char → Option (List Char × List Char)
  | [] => none
  | c :: rest =>
    match afterColon? (c :: rest) with
    | some left => some ([], left)
    | none =>
      if Text.isGap c ∧ isSpent rest then none
      else (plainName? rest).map fun (name, left) => (c :: name, left)

/-- How far behind its beginning the colon of a name may stand. -/
def nameReach : Nat := 1024

/-- The name at the beginning of a text, plain or quoted, and what follows its colon. -/
def name? (cs : List Char) : Option (String × List Char) := do
  let (name, left) ←
    match cs with
    | '"' :: rest =>
      match Text.Quotation.ofDouble? escapes rest with
      | some (.closed name left) => (afterColon? left).map fun left => (name, left)
      | _ => none
    | '\'' :: rest =>
      match Text.Quotation.ofSingle rest with
      | .closed name left => (afterColon? left).map fun left => (name, left)
      | _ => none
    | cs => if startsPlain cs then plainName? cs else none
  if cs.length ≤ left.length + 1 + nameReach then some (String.ofList name, left) else none

end Settings.Line

end CollectionSchema
