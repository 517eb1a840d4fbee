import CollectionSchema.Synthesis.Error

/-!
Resolution of the hooks that a model's directives name.

A hook with an owner is looked up among the owner's hooks, one without among the model's own, and
neither falls back on the other. The hook must have the shape that the directive needs.
-/

namespace CollectionSchema

/-- Where the hooks of a model are looked up. -/
structure HookLookup where
  typeName : String
  declared : Hooks
  owners : HookOwners

namespace HookLookup

/-- The owner of a hook: the one that is named, else the model. -/
def ownerOf (s : HookLookup) (h : HookName) : String :=
  h.owner.getD s.typeName

/-- The hooks among which a name is looked up. -/
def hooksOf (s : HookLookup) (h : HookName) : Option Hooks :=
  match h.owner with
  | some owner => s.owners.get? owner
  | none => some s.declared

/-- The hook of a name. -/
def find? (s : HookLookup) (h : HookName) : Option Hook :=
  (s.hooksOf h).bind fun hooks => hooks.get? h.name

/-- The collection hook of a name. -/
def collection (s : HookLookup) (h : HookName) :
    Except SynthesisError (Collection → Collection) :=
  match s.find? h with
  | none => .error (.hookNotFound (s.ownerOf h) h.name)
  | some (.collection customize) => .ok customize
  | some (.vector _) => .error (.wrongHookShape (s.ownerOf h) h.name .collection .vector)

/-- The vector hook of a name. -/
def vector (s : HookLookup) (h : HookName) :
    Except SynthesisError (String → NamedVector → NamedVector) :=
  match s.find? h with
  | none => .error (.hookNotFound (s.ownerOf h) h.name)
  | some (.collection _) => .error (.wrongHookShape (s.ownerOf h) h.name .vector .collection)
  | some (.vector customize) => .ok customize

end HookLookup

end CollectionSchema
