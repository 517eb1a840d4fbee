/-!
Runs of characters, the entries of the tables of letters and letter case.
-/

namespace CollectionSchema

/-- The code points `first, first + step, …` up to `last`. -/
structure CharRun where
  first : Nat
  last : Nat
  step : Nat
deriving Repr

/-- A run of characters that a case mapping moves by one and the same distance. -/
structure CaseRun where
  first : Nat
  last : Nat
  step : Nat
  shift : Int
deriving Repr

/-- Whether a code point is in a run. -/
def CharRun.contains (r : CharRun) (n : Nat) : Bool :=
  r.first ≤ n && n ≤ r.last && (n - r.first) % r.step == 0

/-- Whether a code point is in a run. -/
def CaseRun.contains (r : CaseRun) (n : Nat) : Bool :=
  r.first ≤ n && n ≤ r.last && (n - r.first) % r.step == 0

end CollectionSchema
