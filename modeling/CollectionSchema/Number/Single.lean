import CollectionSchema.Number.Binary

/-!
Single-precision numbers, held as the 32 bits of their encoding.

A decimal is read by rounding to 64 bits and then to 32, an integer by rounding once.
`Single.toDecimal?` is the shortest decimal that identifies the number; the infinities and the
values that are no number have none.
-/

namespace CollectionSchema

/-- A number of the 32-bit binary format: one sign bit, eight exponent bits, 23 fraction bits. -/
structure Single where
  bits : UInt32
deriving DecidableEq, Repr

namespace Single

/-- The weight of the sign bit. -/
def signWeight : Nat := 0x80000000

/-- The weight of the lowest bit of the exponent field. -/
def exponentWeight : Nat := 0x800000

/-- The exponent field of a value that is not finite. -/
def specialExponent : Nat := 255

/-- The bits of a signed magnitude, `none` standing for infinity. -/
def ofMagnitude (negative : Bool) (magnitude : Option Binary) : Single :=
  let sign : Nat := if negative then signWeight else 0
  let body : Nat :=
    match magnitude with
    | none => specialExponent * exponentWeight
    | some ⟨mantissa, exponent⟩ =>
      if mantissa < exponentWeight then mantissa
      else (exponent + 150).toNat * exponentWeight + (mantissa - exponentWeight)
  ⟨UInt32.ofNat (sign + body)⟩

/-- Whether the sign bit is set. -/
def negative (x : Single) : Bool :=
  signWeight ≤ x.bits.toNat

/-- The exponent field. -/
def exponentField (x : Single) : Nat :=
  x.bits.toNat / exponentWeight % 256

/-- The magnitude of a finite number. -/
def magnitude? (x : Single) : Option Binary :=
  let fraction := x.bits.toNat % exponentWeight
  if x.exponentField = specialExponent then none
  else if x.exponentField = 0 then some ⟨fraction, BinaryFormat.single.minExponent⟩
  else some ⟨exponentWeight + fraction, (x.exponentField : Int) - 150⟩

/-- The number nearest to an integer. -/
def ofInt (n : Int) : Single :=
  ofMagnitude (decide (n < 0)) (BinaryFormat.single.nearest n.natAbs 1)

/-- The number read from a decimal: rounded to 64 bits first, then to 32. -/
def ofDecimal (d : Decimal) : Single :=
  ofMagnitude d.negative
    ((BinaryFormat.double.nearestDecimal d).bind BinaryFormat.single.nearestBinary)

/-- The shortest decimal that identifies a finite number. -/
def toDecimal? (x : Single) : Option Decimal :=
  x.magnitude?.map fun magnitude =>
    let (digits, exponent) := BinaryFormat.single.shortest magnitude
    ⟨x.negative, digits, exponent⟩

end Single

end CollectionSchema
