import CollectionSchema.Json.Numeral
import CollectionSchema.Text.Escape

/-!
The tokens of a JSON text.

`Token.scan` reads a text character by character. A row of the characters of numbers and literal
names is one token: `null`, a truth value or a numeral.
-/

namespace CollectionSchema

/-- A token of a JSON text. -/
inductive Token where
  | openArray
  | closeArray
  | openObject
  | closeObject
  | colon
  | comma
  | text (value : String)
  | scalar (value : Json)
deriving DecidableEq, Repr

namespace Token

/-! ### Words -/

/-- The scalar a word stands for. -/
def ofWord? (word : List Char) : Option Token :=
  match String.ofList word with
  | "null" => some (.scalar .null)
  | "true" => some (.scalar (.bool true))
  | "false" => some (.scalar (.bool false))
  | _ => ((Numeral.ofChars? word).bind Numeral.number?).map fun n => .scalar (.number n)

/-! ### Scanning -/

/-- What the scanner is in the middle of. Characters read so far are held last first. -/
inductive Mode where
  /-- Between tokens. -/
  | between
  /-- In a number or a literal name. -/
  | word (read : List Char)
  /-- In a quoted text. -/
  | text (read : List Char)
  /-- After a backslash. -/
  | escape (read : List Char)
  /-- In a `\u` escape with the digits read so far, perhaps after a leading surrogate. -/
  | unicode (read : List Char) (leading : Option Nat) (count value : Nat)
  /-- After a leading surrogate, where a backslash must follow. -/
  | awaitEscape (read : List Char) (leading : Nat)
  /-- After a leading surrogate and a backslash, where a `u` must follow. -/
  | awaitUnicode (read : List Char) (leading : Nat)
deriving Repr

/-- A scanner's state: the tokens so far, last first, and its mode. -/
structure Scanner where
  tokens : List Token
  mode : Mode
deriving Repr

namespace Scanner

/-- The scanner before the first character. -/
def start : Scanner :=
  ⟨[], .between⟩

/-- The blanks between tokens. -/
def isBlank (c : Char) : Bool :=
  c == ' ' || c == '\n' || c == '\t' || c == '\r'

/-- The characters of numbers and literal names. -/
def isWordChar (c : Char) : Bool :=
  c.isAlphanum || c == '-' || c == '+' || c == '.'

/-- The tokens of one character. -/
def punctuation? : Char → Option Token
  | '[' => some .openArray
  | ']' => some .closeArray
  | '{' => some .openObject
  | '}' => some .closeObject
  | ':' => some .colon
  | ',' => some .comma
  | _ => none

/-- One character between tokens. -/
def between (tokens : List Token) (c : Char) : Option Scanner :=
  if isBlank c then some ⟨tokens, .between⟩
  else if c = '"' then some ⟨tokens, .text []⟩
  else if isWordChar c then some ⟨tokens, .word [c]⟩
  else (punctuation? c).map fun token => ⟨token :: tokens, .between⟩

/-- The character a one-letter escape stands for. -/
def unescape? : Char → Option Char
  | '"' => some '"'
  | '\\' => some '\\'
  | '/' => some '/'
  | 'b' => some (Char.ofNat 8)
  | 'f' => some (Char.ofNat 12)
  | 'n' => some '\n'
  | 'r' => some '\r'
  | 't' => some '\t'
  | _ => none

/-- The mode after a four-digit code. A leading surrogate needs a trailing one right behind it, and
a trailing surrogate needs a leading one before it. -/
def afterCode (read : List Char) (leading : Option Nat) (code : Nat) : Option Mode :=
  let isTrailing := decide (0xDC00 ≤ code ∧ code < 0xE000)
  match leading with
  | some high =>
    if isTrailing then
      some (.text (Char.ofNat (0x10000 + (high - 0xD800) * 0x400 + (code - 0xDC00)) :: read))
    else none
  | none =>
    if 0xD800 ≤ code ∧ code < 0xDC00 then some (.awaitEscape read code)
    else if isTrailing then none
    else some (.text (Char.ofNat code :: read))

/-- One character inside a quoted text, at the places where one is being read. -/
def inText (tokens : List Token) (c : Char) : Mode → Option Scanner
  | .text read =>
    if c = '"' then some ⟨.text (String.ofList read.reverse) :: tokens, .between⟩
    else if c = '\\' then some ⟨tokens, .escape read⟩
    else if c.toNat < 32 then none
    else some ⟨tokens, .text (c :: read)⟩
  | .escape read =>
    if c = 'u' then some ⟨tokens, .unicode read none 0 0⟩
    else (unescape? c).map fun plain => ⟨tokens, .text (plain :: read)⟩
  | .unicode read leading count value =>
    (Text.hexDigit? c).bind fun digit =>
      let value := 16 * value + digit
      if count = 3 then (afterCode read leading value).map fun mode => ⟨tokens, mode⟩
      else some ⟨tokens, .unicode read leading (count + 1) value⟩
  | .awaitEscape read leading =>
    if c = '\\' then some ⟨tokens, .awaitUnicode read leading⟩ else none
  | .awaitUnicode read leading =>
    if c = 'u' then some ⟨tokens, .unicode read (some leading) 0 0⟩ else none
  | .between => none
  | .word _ => none

/-- One character. -/
def step (s : Scanner) (c : Char) : Option Scanner :=
  match s.mode with
  | .between => between s.tokens c
  | .word read =>
    if isWordChar c then some ⟨s.tokens, .word (c :: read)⟩
    else (ofWord? read.reverse).bind fun token => between (token :: s.tokens) c
  | mode => inText s.tokens c mode

/-- The tokens when the text ends here. -/
def finish (s : Scanner) : Option (List Token) :=
  match s.mode with
  | .between => some s.tokens.reverse
  | .word read => (ofWord? read.reverse).map fun token => (token :: s.tokens).reverse
  | _ => none

end Scanner

/-- The tokens of a text. -/
def scan (s : String) : Option (List Token) :=
  (s.toList.foldlM Scanner.step Scanner.start).bind Scanner.finish

end Token

end CollectionSchema
