import CollectionSchema.Json.Basic
import CollectionSchema.Number.Scaling

/-!
Numerals: the number texts of JSON, and the numbers they stand for.

`Numeral.ofChars?` takes a text apart and `Numeral.number?` gives its number. A numeral with neither
fraction nor exponent is an integer when it fits in 64 bits and is not minus zero. Every other
numeral stands for a 64-bit binary value, kept as the shortest decimal of it: as many digits as fit
in 64 bits are taken for an integer, rounded, and scaled by the power of ten that puts the point in
its place. A numeral past the greatest of those values is refused.
-/

namespace CollectionSchema

/-- A number text taken apart. There is a fraction just when it has digits. -/
structure Numeral where
  negative : Bool
  whole : List Char
  fraction : List Char
  exponent : Option Int
deriving DecidableEq, Repr

/-- Leading digits of a numeral and the power of ten of the last of them. -/
structure Significand where
  value : Nat
  exponent : Int
deriving DecidableEq, Repr

namespace Significand

/-- The greatest value of the digits that are kept. -/
def bound : Nat := 0xffffffffffffffff

/-- The value of some digits with one more behind them. -/
def append (value : Nat) (digit : Char) : Nat :=
  10 * value + (digit.toNat - '0'.toNat)

/-- The digits of a whole number behind those read already. From the first digit on that does not
fit, each only raises the power of ten. -/
def ofWhole (value : Nat) : List Char → Significand
  | [] => ⟨value, 0⟩
  | c :: rest =>
    if append value c ≤ bound then ofWhole (append value c) rest
    else ⟨value, (c :: rest).length⟩

/-- The digits of a fraction behind those read already. From the first digit on that does not fit,
they are passed over. -/
def extend (s : Significand) : List Char → Significand
  | [] => s
  | c :: rest =>
    if append s.value c ≤ bound then extend ⟨append s.value c, s.exponent - 1⟩ rest else s

end Significand

namespace Numeral

/-! ### Taking a text apart -/

/-- Splits leading decimal digits from the rest. -/
def spanDigits (cs : List Char) : List Char × List Char :=
  cs.span Char.isDigit

/-- The number a row of decimal digits stands for. -/
def digitsValue (digits : List Char) : Nat :=
  digits.foldl Significand.append 0

/-- The exponent part of a number, which must be all that is left. -/
def exponent? : List Char → Option (Option Int)
  | [] => some none
  | c :: rest =>
    if c = 'e' ∨ c = 'E' then
      let (negative, digits) :=
        match rest with
        | '-' :: digits => (true, digits)
        | '+' :: digits => (false, digits)
        | digits => (false, digits)
      if digits.isEmpty ∨ ¬ digits.all Char.isDigit then none
      else
        let value : Int := digitsValue digits
        some (some (if negative then -value else value))
    else none

/-- A whole number text: a sign, digits without a leading zero, a fraction, an exponent. -/
def ofChars? (cs : List Char) : Option Numeral :=
  let (negative, unsigned) :=
    match cs with
    | '-' :: rest => (true, rest)
    | _ => (false, cs)
  let (whole, rest) := spanDigits unsigned
  let wellFormed :=
    match whole with
    | [] => false
    | ['0'] => true
    | c :: _ => c != '0'
  if !wellFormed then none
  else
    match rest with
    | '.' :: rest =>
      let (fraction, rest) := spanDigits rest
      if fraction.isEmpty then none
      else (exponent? rest).map (⟨negative, whole, fraction, ·⟩)
    | rest => (exponent? rest).map (⟨negative, whole, [], ·⟩)

/-! ### The number -/

/-- The digits that are kept of a numeral. -/
def significand (n : Numeral) : Significand :=
  (Significand.ofWhole 0 n.whole).extend n.fraction

/-- The integer that a numeral is written as, if it fits in 64 bits. -/
def integer? (n : Numeral) : Option Int :=
  let value : Int := if n.negative then -(digitsValue n.whole : Int) else digitsValue n.whole
  if n.fraction.isEmpty ∧ n.exponent.isNone ∧ ¬ (n.negative ∧ value = 0) ∧
      -0x8000000000000000 ≤ value ∧ value ≤ 0xffffffffffffffff then
    some value
  else none

/-- The 64-bit value of a numeral, as its shortest decimal. -/
def decimal? (n : Numeral) : Option Decimal :=
  let s := n.significand
  ((BinaryFormat.double.nearest s.value 1).bind
      (·.scaleTen? (s.exponent + n.exponent.getD 0))).map fun b =>
    let (digits, exponent) := BinaryFormat.double.shortest b
    ⟨n.negative, digits, exponent⟩

/-- The number that a numeral stands for. -/
def number? (n : Numeral) : Option Number :=
  match n.integer? with
  | some value => some (.integer value)
  | none => n.decimal?.map .decimal

end Numeral

end CollectionSchema
