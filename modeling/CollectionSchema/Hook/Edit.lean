import CollectionSchema.Hook.Basic

/-!
Edits: hooks written down as lists of single steps. They belong to the outer layer that answers
requests: hooks themselves are any functions, and requests can only name edits.

A hook made from edits applies them in order. A step that names a property by position does nothing
when there is none at that position.
-/

namespace CollectionSchema

/-- A step of a collection hook. -/
inductive CollectionEdit where
  | setName (name : String)
  | appendName (ending : String)
  | setDescription (description : Option String)
  | pushProperty (property : Property)
  | pushReference (reference : Reference)
  | pushVector (vector : NamedVector)
  | copyProperty (position : Nat)
  | removeProperty (position : Nat)
  | reverseProperties
  | clearVectors
  | setFactor (factor : Option UInt32)
  | setMultiTenancy (enabled : Bool)
deriving Repr

/-- A step of a vector hook. -/
inductive VectorEdit where
  | setName (name : String)
  | appendName (ending : String)
  | nameFromArgument (ending : String)
  | setDistance (distance : Distance)
  | setQuantizer (quantizer : Quantizer)
  | setIndex (index : VectorIndex)
  | setVectorizer (vectorizer : Vectorizer)
deriving Repr

/-- The collection after a step. -/
def CollectionEdit.apply (c : Collection) : CollectionEdit → Collection
  | setName name => { c with name }
  | appendName ending => { c with name := c.name ++ ending }
  | setDescription description => { c with description }
  | pushProperty property => { c with properties := c.properties ++ [property] }
  | pushReference reference => { c with references := c.references ++ [reference] }
  | pushVector vector => { c with vectors := c.vectors ++ [vector] }
  | copyProperty position =>
    { c with properties := c.properties ++ c.properties[position]?.toList }
  | removeProperty position => { c with properties := c.properties.eraseIdx position }
  | reverseProperties => { c with properties := c.properties.reverse }
  | clearVectors => { c with vectors := [] }
  | setFactor factor => { c with replication := { c.replication with factor } }
  | setMultiTenancy enabled => { c with multiTenancy := { c.multiTenancy with enabled } }

/-- The vector after a step, given the name that the hook was called with. -/
def VectorEdit.apply (argument : String) (v : NamedVector) : VectorEdit → NamedVector
  | setName name => { v with name }
  | appendName ending => { v with name := v.name ++ ending }
  | nameFromArgument ending => { v with name := argument ++ ending }
  | setDistance distance => { v with index := v.index.setDistance distance }
  | setQuantizer quantizer => { v with index := v.index.setQuantizer quantizer }
  | setIndex index => { v with index }
  | setVectorizer vectorizer => { v with vectorizer }

namespace Hook

/-- The collection hook that applies some edits in order. -/
def ofCollectionEdits (edits : List CollectionEdit) : Hook :=
  .collection fun c => edits.foldl CollectionEdit.apply c

/-- The vector hook that applies some edits in order. -/
def ofVectorEdits (edits : List VectorEdit) : Hook :=
  .vector fun argument v => edits.foldl (VectorEdit.apply argument) v

end Hook

end CollectionSchema
