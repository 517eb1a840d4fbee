import CollectionSchema.Synthesis.Config

/-!
Settings: what a settings file and the environment say about the defaults of synthesis.

Of a setting only texts and integers matter; a value of any other type is of no use to any of the
defaults. Later settings of a name replace earlier ones. Nothing is converted: a quoted number is a
text.
-/

namespace CollectionSchema

/-- The value of a setting. -/
inductive Setting where
  | text (value : String)
  | integer (value : Int)
  | other
deriving DecidableEq, Repr

/-- Settings under their names. -/
abbrev Settings := Table Setting

namespace Setting

/-- The word that a setting gives. -/
def text? : Setting → Option String
  | text value => some value
  | _ => none

/-- The natural number of up to 64 bits that a setting gives. -/
def nat64? : Setting → Option Nat
  | integer value => if 0 ≤ value ∧ value.toNat < UInt64.size then some value.toNat else none
  | _ => none

end Setting

namespace Settings

/-- Settings with others laid over them. -/
def overlay (below above : Settings) : Settings :=
  above.foldl (fun t entry => t.set entry.1 entry.2) below

/-- A setting as read, or its default when it is not given. -/
def read? {α : Type} (s : Settings) (name : String) (read : Setting → Option α) (default : α) :
    Option α :=
  match Table.get? s name with
  | none => some default
  | some value => read value

/-- The defaults of synthesis that some settings give. Names that mean nothing are passed over. -/
def toConfig? (s : Settings) : Option SynthesisConfig := do
  let indexFamily ← s.read? "default_vector_index" (fun v => v.text?.bind IndexFamily.ofName?) .hnsw
  let distance ← s.read? "default_distance" (fun v => v.text?.bind Enumeration.ofWord?) .cosine
  let maxDepth ← s.read? "max_nesting_depth" Setting.nat64? 16
  return ⟨indexFamily, distance, maxDepth⟩

end Settings

end CollectionSchema
