import CollectionSchema.Number.Decimal

/-!
Binary floating-point magnitudes and their decimals, in exact arithmetic.

`BinaryFormat.nearest` rounds a quotient of naturals to the nearest value of a format, a tie going
to the even mantissa. `BinaryFormat.shortest` finds the fewest decimal digits that lie nearer to a
value than to any other value of its format: it tries the grids of powers of ten from coarse to
fine and, on each, the two neighbours of the value.
-/

namespace CollectionSchema

/-- A binary floating-point format: the bits of a mantissa and the range of exponents. -/
structure BinaryFormat where
  precision : Nat
  minExponent : Int
  maxExponent : Int
deriving DecidableEq, Repr

/-- A magnitude `mantissa · 2 ^ exponent`. -/
structure Binary where
  mantissa : Nat
  exponent : Int
deriving DecidableEq, Repr

namespace BinaryFormat

/-- The 32-bit format. -/
def single : BinaryFormat := ⟨24, -149, 104⟩

/-- The 64-bit format. -/
def double : BinaryFormat := ⟨53, -1074, 971⟩

/-- The integer nearest to `num / den`, a tie going to the even one. -/
def roundHalfEven (num den : Nat) : Nat :=
  let quotient := num / den
  let twice := 2 * (num % den)
  if twice < den then quotient
  else if den < twice then quotient + 1
  else if quotient % 2 = 0 then quotient else quotient + 1

/-- The greatest `k` with `2 ^ k ≤ num / den`, for positive arguments. -/
def floorLog2 (num den : Nat) : Int :=
  let guess : Int := (Nat.log2 num : Int) - (Nat.log2 den : Int)
  if num * Nat.pow 2 (-guess).toNat < den * Nat.pow 2 guess.toNat then guess - 1 else guess

/-- The value of the format nearest to `num / den`; `none` past its greatest finite value. -/
def nearest (f : BinaryFormat) (num den : Nat) : Option Binary :=
  if num = 0 then
    some ⟨0, f.minExponent⟩
  else
    let exponent := max f.minExponent (floorLog2 num den - (f.precision - 1 : Nat))
    let mantissa :=
      roundHalfEven (num * Nat.pow 2 (-exponent).toNat) (den * Nat.pow 2 exponent.toNat)
    let rounded : Binary :=
      if mantissa = Nat.pow 2 f.precision then ⟨mantissa / 2, exponent + 1⟩
      else ⟨mantissa, exponent⟩
    if f.maxExponent < rounded.exponent then none else some rounded

/-- No value of either format has its decimal point this far from its first digit. -/
def pointBound : Int := 400

/-- The value of the format nearest to the magnitude of a decimal. Decimals far out of range are
settled by the position of their point alone. -/
def nearestDecimal (f : BinaryFormat) (d : Decimal) : Option Binary :=
  if d.digits = 0 ∨ d.point < -pointBound then
    some ⟨0, f.minExponent⟩
  else if pointBound < d.point then
    none
  else
    f.nearest (d.digits * Nat.pow 10 d.exponent.toNat) (Nat.pow 10 (-d.exponent).toNat)

/-- The value of the format nearest to a magnitude of another format. -/
def nearestBinary (f : BinaryFormat) (b : Binary) : Option Binary :=
  f.nearest (b.mantissa * Nat.pow 2 b.exponent.toNat) (Nat.pow 2 (-b.exponent).toNat)

/-- A multiple of `10 ^ k` that rounds to the value, nearest to it, if there is one. The value and
the ends of the interval that rounds to it are `4 · mantissa`, `low` and `high` in quarters of
`2 ^ exponent`; the ends belong to the interval when the mantissa is even. -/
def onGrid (b : Binary) (low high : Nat) (k : Int) : Option Nat :=
  let quarter := b.exponent - 2
  let num := Nat.pow 2 quarter.toNat * Nat.pow 10 (-k).toNat
  let den := Nat.pow 2 (-quarter).toNat * Nat.pow 10 k.toNat
  let below := 4 * b.mantissa * num / den
  let fits (q : Nat) : Bool :=
    if b.mantissa % 2 = 0 then
      decide (low * num ≤ q * den ∧ q * den ≤ high * num)
    else
      decide (low * num < q * den ∧ q * den < high * num)
  match fits below, fits (below + 1) with
  | true, true => some (roundHalfEven (4 * b.mantissa * num) den)
  | true, false => some below
  | false, true => some (below + 1)
  | false, false => none

/-- An exponent of ten above the value. -/
def coarsest (b : Binary) : Int :=
  (b.exponent + Nat.log2 b.mantissa + 1) * 30103 / 100000 + 1

/-- The fewest digits, with their power of ten, that round to the value; of several, those
nearest to it. Seventeen digits always suffice. -/
def shortest (f : BinaryFormat) (b : Binary) : Nat × Int :=
  if b.mantissa = 0 then
    (0, 0)
  else
    let narrow := b.mantissa = Nat.pow 2 (f.precision - 1) ∧ f.minExponent < b.exponent
    let low := 4 * b.mantissa - (if narrow then 1 else 2)
    let high := 4 * b.mantissa + 2
    let grids := (List.range 24).map (fun (i : Nat) => coarsest b - (i : Int))
    let found := grids.findSome? (fun k => (onGrid b low high k).map (fun q => (q, k)))
    match found with
    | some (digits, exponent) => Decimal.dropZeros digits exponent
    | none => (0, 0)

end BinaryFormat

end CollectionSchema
