import CollectionSchema.Collection.Basic
import CollectionSchema.Table
import CollectionSchema.Text.Quoted

/-!
Hooks: functions that customize a schema after it was built from its declaration.

A hook is kept under a name, among the hooks of the model that declares it or among those of an
owner. A directive refers to it by name, with the owner if there is one. A hook that is added again
replaces the one before, and all hooks of an owner can be replaced at once.
-/

namespace CollectionSchema

/-- A customization of a collection or of one of its vectors. A vector hook is also given the name
of the vector. -/
inductive Hook where
  | collection (customize : Collection → Collection)
  | vector (customize : String → NamedVector → NamedVector)

/-- The two shapes of hooks. -/
inductive HookShape where
  | collection
  | vector
deriving DecidableEq, Repr

/-- The text shown for a shape. -/
def HookShape.text : HookShape → String
  | collection => "fn(CollectionDescriptor) -> CollectionDescriptor"
  | vector => "fn(&str, VectorDescriptor) -> VectorDescriptor"

namespace Hook

/-- The shape of a hook. -/
def shape : Hook → HookShape
  | collection _ => .collection
  | vector _ => .vector

/-- The text shown for a hook. -/
def text (h : Hook) : String :=
  s!"Hook({h.shape.text})"

end Hook

/-- Hooks under names. -/
abbrev Hooks := Table Hook

namespace Hooks

/-- Some named hooks. Of two with one name the later stays. -/
def ofList (hooks : List (String × Hook)) : Hooks :=
  hooks.foldl (fun hs h => hs.set h.1 h.2) []

/-- The names in the order of their characters. -/
def sortedNames (hs : Hooks) : List String :=
  hs.names.mergeSort fun a b => decide (a ≤ b)

/-- The shapes of the hooks, in the order of the sorted names. -/
def sortedShapes (hs : Hooks) : List HookShape :=
  hs.sortedNames.filterMap fun name => (hs.get? name).map Hook.shape

/-- The text shown for some hooks: every name with its hook. -/
def text (hs : Hooks) : String :=
  let entries := hs.sortedNames.filterMap fun name =>
    (hs.get? name).map fun hook => Text.quoted name ++ ": " ++ hook.text
  "\x7b" ++ ", ".intercalate entries ++ "\x7d"

end Hooks

/-- Hooks under the names of their owners. -/
abbrev HookOwners := Table Hooks

namespace HookOwners

/-- Adds a hook to those of an owner. -/
def add (owners : HookOwners) (owner name : String) (hook : Hook) : HookOwners :=
  owners.set owner (((owners.get? owner).getD []).set name hook)

/-- Replaces all hooks of an owner. -/
def replace (owners : HookOwners) (owner : String) (hooks : Hooks) : HookOwners :=
  owners.set owner hooks

end HookOwners

/-- The name of a hook, on an owner or on the declaring model itself. -/
structure HookName where
  name : String
  owner : Option String := none
deriving DecidableEq, Repr

end CollectionSchema
