/-!
Decimal numbers as they are written: a sign, the digits, and a power of ten.

`Decimal.render` is the written form used in documents. It always shows a fraction, so that a
reader can tell a decimal from an integer.
-/

namespace CollectionSchema

/-- The number `digits · 10 ^ exponent`, negated when `negative`. Zero keeps its sign. -/
structure Decimal where
  negative : Bool
  digits : Nat
  exponent : Int
deriving DecidableEq, Repr

namespace Decimal

/-- The position of the decimal point counted from the first digit: a nonzero value lies in
`[10 ^ (point - 1), 10 ^ point)`. -/
def point (d : Decimal) : Int :=
  (toString d.digits).length + d.exponent

/-- Where positional notation ends: values below `10 ^ 16` and not below `10 ^ (-5)` are written
without an exponent. -/
def positionalBelow : Int := 16

/-- The smallest position of the point that is still written without an exponent. -/
def positionalAbove : Int := -5

/-- A text of `n` zeros. -/
def zeros (n : Nat) : String :=
  String.ofList (List.replicate n '0')

/-- The written form of the digits: positional where that is short, scientific elsewhere. -/
def renderMagnitude (d : Decimal) : String :=
  let text := toString d.digits
  let point := d.point
  if d.digits = 0 then
    "0.0"
  else if 0 ≤ d.exponent ∧ point ≤ positionalBelow then
    text ++ zeros d.exponent.toNat ++ ".0"
  else if 0 < point ∧ point ≤ positionalBelow then
    let whole := text.toList.take point.toNat
    let rest := text.toList.drop point.toNat
    String.ofList whole ++ "." ++ String.ofList rest
  else if positionalAbove < point ∧ point ≤ 0 then
    "0." ++ zeros (-point).toNat ++ text
  else
    let lead := String.ofList (text.toList.take 1)
    let rest := String.ofList (text.toList.drop 1)
    let mantissa := if rest.isEmpty then lead else lead ++ "." ++ rest
    mantissa ++ "e" ++ toString (point - 1)

/-- The written form with its sign. -/
def render (d : Decimal) : String :=
  if d.negative then "-" ++ d.renderMagnitude else d.renderMagnitude

/-- Drops the zeros at the end of the digits. -/
def dropZeros (digits : Nat) (exponent : Int) : Nat × Int :=
  if h : digits ≠ 0 ∧ digits % 10 = 0 then
    dropZeros (digits / 10) (exponent + 1)
  else
    (digits, exponent)
termination_by digits
decreasing_by exact Nat.div_lt_self (Nat.pos_of_ne_zero h.1) (by decide)

end Decimal

end CollectionSchema
