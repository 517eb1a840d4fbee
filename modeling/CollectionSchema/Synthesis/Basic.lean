import CollectionSchema.Synthesis.Property
import CollectionSchema.Synthesis.Vector

/-!
Synthesis: the schema of a model.

The settings of the collection are checked first, then the fields in order. Vectors are made when
all properties and references are known, since they may read any of them. Names must be unique
before the vectors are made, after that, and once more after the hook of the collection.
-/

namespace CollectionSchema

/-- What a field becomes. A vector is left to be made later. -/
inductive Member (n : Nat) where
  | property (property : Property)
  | reference (reference : Reference)
  | vector (field : Field n) (directive : VectorDirective)

namespace Synthesis

variable {n : Nat}

/-- Checks that the settings of a collection are in range. -/
def checkSettings (d : CollectionDirective) : Except SynthesisError Unit :=
  match d.violations with
  | [] => .ok ()
  | violations => .error (.settingsOutOfRange violations)

/-- Checks that names are unique in a collection. -/
def requireUnique (c : Collection) : Except SynthesisError Unit :=
  match c.nameClashes.head? with
  | some clash => .error (.nameClash clash.scope clash.name)
  | none => .ok ()

/-- The reference of a field. -/
def referenceOf (f : Field n) (d : ReferenceDirective) : Reference :=
  ⟨f.referenceName d, d.target, d.description⟩

/-- What a field becomes. -/
def memberOf (maxDepth : Nat) (types : Catalog n) (typeName : String) (f : Field n) :
    Except SynthesisError (Member n) :=
  match f.vector, f.reference with
  | some _, some _ => .error (.vectorAndReference f.ident)
  | some d, none => .ok (.vector f d)
  | none, some d => .ok (.reference (referenceOf f d))
  | none, none => (propertyOf maxDepth types typeName [] f).map .property

/-- The properties among some members. -/
def properties (members : List (Member n)) : List Property :=
  members.filterMap fun
    | .property p => some p
    | _ => none

/-- The references among some members. -/
def references (members : List (Member n)) : List Reference :=
  members.filterMap fun
    | .reference r => some r
    | _ => none

/-- The fields among some members that are to become vectors. -/
def vectorFields (members : List (Member n)) : List (Field n × VectorDirective) :=
  members.filterMap fun
    | .vector f d => some (f, d)
    | _ => none

/-- The setting that an integer stands for. Integers out of range are refused here as well. -/
def settingOf (setting : String) (value : Int) : Except SynthesisError (Option UInt32) :=
  if value = leftToServer then
    .ok none
  else if 0 ≤ value ∧ value ≤ maxSetting then
    .ok (some (UInt32.ofNat value.toNat))
  else
    .error (.settingOutOfRange setting value)

/-- Gives a collection the settings of a directive. -/
def applySettings (d : CollectionDirective) (c : Collection) :
    Except SynthesisError Collection := do
  let factor ← settingOf "replication_factor" d.replicationFactor
  let desiredCount ← settingOf "desired_count" d.sharding.desiredCount
  let virtualPerPhysical ← settingOf "virtual_per_physical" d.sharding.virtualPerPhysical
  let sharding : Sharding := ⟨desiredCount, virtualPerPhysical, d.sharding.key⟩
  return { c with
    replication := ⟨factor, d.asyncReplication, d.deletionStrategy⟩
    sharding := if sharding.isEmpty then none else some sharding
    multiTenancy := ⟨d.multiTenancy, d.autoTenantCreation, d.autoTenantActivation⟩
    invertedIndex := d.invertedIndex }

/-- Applies the hook of a collection, if its directive names one. -/
def customizeCollection (lookup : HookLookup) (d : CollectionDirective) (c : Collection) :
    Except SynthesisError Collection :=
  match d.hook with
  | none => .ok c
  | some hook => do
    let customize ← lookup.collection hook
    requireUnique (customize c)
    return customize c

end Synthesis

/-- What makes schemas of models: the defaults, and the hooks of owners other than the models. -/
structure Synthesizer where
  config : SynthesisConfig := {}
  owners : HookOwners := []

namespace Synthesizer

variable {n : Nat}

open Synthesis

/-- Where the hooks of a model are looked up. -/
def lookup (s : Synthesizer) (m : Model n) : HookLookup :=
  ⟨m.typeName, m.hooks, s.owners⟩

/-- The schema of a model as it is declared, before the hook of the collection. -/
def declared (s : Synthesizer) (types : Catalog n) (m : Model n) :
    Except SynthesisError Collection := do
  checkSettings m.directive
  let members ← m.fields.mapM (memberOf s.config.maxDepth types m.typeName)
  let base : Collection :=
    { name := m.collectionName
      description := m.directive.description
      properties := properties members
      references := references members }
  requireUnique base
  let vectors ← (vectorFields members).mapM fun (f, d) => vectorOf s.config (s.lookup m) base f d
  let complete := { base with vectors }
  requireUnique complete
  applySettings m.directive complete

/-- The schema of a model. -/
def synthesize (s : Synthesizer) (types : Catalog n) (m : Model n) :
    Except SynthesisError Collection := do
  let collection ← s.declared types m
  customizeCollection (s.lookup m) m.directive collection

end Synthesizer

end CollectionSchema
