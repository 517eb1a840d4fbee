import CollectionSchema.Text.Words

/-!
Pairing of wanted names with named entries.

Every wanted name takes at most one entry and every entry goes to at most one name. Exact matches
are settled first; the names left over then take entries whose name agrees up to the case of ASCII
letters. In both rounds the names choose in order, and each takes the first entry that is left.
-/

namespace CollectionSchema

/-- The entries taken by the wanted names, in the order of the names, and the entries that are left,
in their own order. -/
structure Pairing (α : Type) where
  partners : List (Option α)
  unclaimed : List α
deriving Repr

namespace Pairing

variable {α : Type}

/-- Takes the first entry with a property out of a list. -/
def takeFirst (wanted : α → Bool) : List α → Option α × List α
  | [] => (none, [])
  | a :: rest =>
    if wanted a then (some a, rest)
    else
      let (found, left) := takeFirst wanted rest
      (found, a :: left)

/-- One round: every name without a partner takes the first entry that agrees with it. -/
def claim (agrees : String → α → Bool) :
    List (String × Option α) → List α → List (String × Option α) × List α
  | [], entries => ([], entries)
  | (name, some partner) :: names, entries =>
    let (claimed, left) := claim agrees names entries
    ((name, some partner) :: claimed, left)
  | (name, none) :: names, entries =>
    let (found, left) := takeFirst (agrees name) entries
    let (claimed, left) := claim agrees names left
    ((name, found) :: claimed, left)

/-- Pairs names with entries, by exact name first and then ignoring the case of ASCII letters. -/
def ofNames (nameOf : α → String) (names : List String) (entries : List α) : Pairing α :=
  let unpaired := names.map fun name => (name, none)
  let (exact, left) := claim (fun name a => nameOf a == name) unpaired entries
  let (claimed, left) := claim (fun name a => Text.sameIgnoringCase (nameOf a) name) exact left
  ⟨claimed.map (·.2), left⟩

end Pairing

end CollectionSchema
