/-!
Blank characters: those with the Unicode property `White_Space`, and two smaller classes, the blanks
among the ASCII characters and the gaps within a line.
-/

namespace CollectionSchema.Text

/-- Whether a character is blank. -/
def isBlank (c : Char) : Bool :=
  let n := c.toNat
  n == 0x20 || (0x9 ≤ n && n ≤ 0xD) || n == 0x85 || n == 0xA0 || n == 0x1680 ||
    (0x2000 ≤ n && n ≤ 0x200A) || n == 0x2028 || n == 0x2029 || n == 0x202F || n == 0x205F ||
    n == 0x3000

/-- Whether a character is a blank of ASCII: a space, a tab, a line feed, a form feed or a carriage
return. -/
def isAsciiBlank (c : Char) : Bool :=
  let n := c.toNat
  n == 0x20 || n == 0x9 || n == 0xA || n == 0xC || n == 0xD

/-- Whether a character is a gap within a line: a space or a tab. -/
def isGap (c : Char) : Bool :=
  c == ' ' || c == '\t'

/-- A text without the characters of a class at its ends. -/
def trimAll (p : Char → Bool) (cs : List Char) : List Char :=
  ((cs.dropWhile p).reverse.dropWhile p).reverse

/-- A text without the blanks at its ends. -/
def trim (cs : List Char) : List Char :=
  trimAll isBlank cs

end CollectionSchema.Text
