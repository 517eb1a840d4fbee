import CollectionSchema.Json.Numeral
import CollectionSchema.Settings.Basic
import CollectionSchema.Text.Escape

/-!
Plain values of a settings file, those without quotes.

A plain value is an integer if it is written as one, in base ten, sixteen, eight or two. The words
for nothing and for truth values, and decimals, are of no use as settings. Anything else is a text,
also digits behind a leading zero.
-/

namespace CollectionSchema

namespace Settings.Plain

/-- The value of a digit in bases up to sixteen. -/
def digit? (base : Nat) (c : Char) : Option Nat :=
  (Text.hexDigit? c).filter fun d => decide (d < base)

/-- The natural number that some digits stand for. -/
def natural? (base : Nat) (digits : List Char) : Option Nat :=
  if digits.isEmpty then none
  else digits.foldlM (fun n c => (digit? base c).map fun d => base * n + d) 0

/-- The natural number that an unsigned value is written as. A leading zero makes it a text. -/
def unsigned? (cs : List Char) : Option Nat :=
  match cs with
  | '0' :: 'x' :: digits => natural? 16 digits
  | '0' :: 'o' :: digits => natural? 8 digits
  | '0' :: 'b' :: digits => natural? 2 digits
  | ['0'] => some 0
  | '0' :: _ => none
  | digits => natural? 10 digits

/-- The integer that a value is written as, given how natural numbers are. At most one sign comes
before a natural number. -/
def signed? (unsigned? : List Char → Option Nat) (cs : List Char) : Option Int :=
  match cs with
  | '+' :: digits => (unsigned? digits).map fun n => (n : Int)
  | '-' :: digits => (unsigned? digits).map fun n => -(n : Int)
  | digits => (unsigned? digits).map fun n => (n : Int)

/-- The words that stand for nothing or for a truth value. -/
def reservedWords : List String :=
  ["~", "null", "Null", "NULL", "true", "True", "TRUE", "false", "False", "FALSE"]

/-- The words for the decimals that are not finite. -/
def specialDecimals : List String :=
  [".inf", ".Inf", ".INF", "+.inf", "+.Inf", "+.INF", "-.inf", "-.Inf", "-.INF", ".nan", ".NaN",
    ".NAN"]

/-- Whether digits with a point or an exponent stand for a decimal. -/
def isDecimal (cs : List Char) : Bool :=
  let unsigned :=
    match cs with
    | '+' :: rest => rest
    | '-' :: rest => rest
    | rest => rest
  let (whole, rest) := Numeral.spanDigits unsigned
  let (fraction, rest) :=
    match rest with
    | '.' :: rest => Numeral.spanDigits rest
    | rest => ([], rest)
  !(whole.isEmpty && fraction.isEmpty) && (Numeral.exponent? rest).isSome

/-- Whether a value is a row of digits that a leading zero keeps from being a number. -/
def isPaddedDigits (cs : List Char) : Bool :=
  let unsigned :=
    match cs with
    | '+' :: rest => rest
    | '-' :: rest => rest
    | rest => rest
  match unsigned with
  | '0' :: c :: rest => (c :: rest).all Char.isDigit
  | _ => false

/-- The setting that a plain value gives. -/
def toSetting (cs : List Char) : Setting :=
  let word := String.ofList cs
  if cs.isEmpty || reservedWords.contains word || specialDecimals.contains word then .other
  else
    match signed? unsigned? cs with
    | some n => .integer n
    | none => if !isPaddedDigits cs && isDecimal cs then .other else .text word

end Settings.Plain

end CollectionSchema
