import CollectionSchema.Number.Binary

/-!
Binary magnitudes times powers of ten, with a rounding at every step.

`Binary.scaleTen?` is how a decimal numeral becomes a 64-bit value: its digits are one value, the
power of ten is another, and their product or quotient is rounded once more. So a numeral need not
give the value nearest to it, only one close to that.
-/

namespace CollectionSchema

namespace BinaryFormat

/-- The product of two magnitudes, rounded; `none` past the greatest finite value. -/
def mul? (f : BinaryFormat) (a b : Binary) : Option Binary :=
  let exponent := a.exponent + b.exponent
  f.nearest (a.mantissa * b.mantissa * Nat.pow 2 exponent.toNat) (Nat.pow 2 (-exponent).toNat)

/-- The quotient of two magnitudes, rounded; `none` past the greatest finite value. -/
def div? (f : BinaryFormat) (a b : Binary) : Option Binary :=
  let exponent := a.exponent - b.exponent
  f.nearest (a.mantissa * Nat.pow 2 exponent.toNat) (b.mantissa * Nat.pow 2 (-exponent).toNat)

/-- A power of ten, rounded; `none` past the greatest finite value. -/
def powerOfTen? (f : BinaryFormat) (k : Nat) : Option Binary :=
  f.nearest (Nat.pow 10 k) 1

end BinaryFormat

namespace Binary

/-- The greatest power of ten that a 64-bit value can be near to. -/
def tenStep : Nat := 308

/-- A magnitude divided by a power of ten, as 64-bit values. -/
def overTen? (b : Binary) (k : Nat) : Option Binary :=
  (BinaryFormat.double.powerOfTen? k).bind (BinaryFormat.double.div? b)

/-- A magnitude multiplied by a power of ten, as 64-bit values. -/
def timesTen? (b : Binary) (k : Nat) : Option Binary :=
  (BinaryFormat.double.powerOfTen? k).bind (BinaryFormat.double.mul? b)

/-- A magnitude below `2 ^ 64` times `10 ^ exponent`, in steps of at most `10 ^ 308`. Only the way
down takes more than one step, and two of full length take every such magnitude to zero. -/
def scaleTen? (b : Binary) (exponent : Int) : Option Binary :=
  if b.mantissa = 0 ∨ exponent < -2 * (tenStep : Int) then
    some ⟨0, BinaryFormat.double.minExponent⟩
  else if exponent < -(tenStep : Int) then
    (b.overTen? tenStep).bind (·.overTen? (-exponent - (tenStep : Int)).toNat)
  else if exponent < 0 then
    b.overTen? (-exponent).toNat
  else if exponent ≤ (tenStep : Int) then
    b.timesTen? exponent.toNat
  else
    none

end Binary

end CollectionSchema
