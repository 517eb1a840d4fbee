import CollectionSchema.ErrorCode
import CollectionSchema.Model.Basic

/-!
What can be wrong with a model that is to become a schema. Synthesis stops at the first error it
meets; `SynthesisError.message` is the text of each.
-/

namespace CollectionSchema

/-- A parameter of a vectorizer that a directive may set or has to set. -/
inductive VectorizerParameter where
  | model
  | dimensions
  | baseUrl
  | sources
  | imageFields
  | references
deriving DecidableEq, Repr

/-- The phrase for a parameter. -/
def VectorizerParameter.phrase : VectorizerParameter → String
  | model => "a model"
  | dimensions => "dimensions"
  | baseUrl => "a base url"
  | sources => "source properties"
  | imageFields => "image fields"
  | references => "reference properties"

/-- What a vectorizer reads. -/
inductive SourceKind where
  | property
  | reference
deriving DecidableEq, Repr

/-- The word for what a vectorizer reads. -/
def SourceKind.word : SourceKind → String
  | property => "property"
  | reference => "reference"

/-- What is wrong with a model. -/
inductive SynthesisError where
  /-- A field has no kind: none is given and its type has none. -/
  | noKind (typeName ident valueType : String)
  /-- A hook is not among those it is looked for in. -/
  | hookNotFound (owner hook : String)
  /-- A hook has the other shape. -/
  | wrongHookShape (owner hook : String) (expected found : HookShape)
  /-- A self-provided vector is given a parameter. -/
  | needlessParameter (vector : String) (parameter : VectorizerParameter)
  /-- A vectorizer lacks a parameter. -/
  | missingParameter (vector moduleName : String) (parameter : VectorizerParameter)
  /-- A vectorizer reads what the collection does not have. -/
  | unknownSource (vector source : String) (expected : SourceKind)
  /-- A field that is no text is tokenized. -/
  | tokenizedNonText (field : String) (kind : DataKind)
  /-- A field is given an object kind and has no nested type. -/
  | noNestedType (field : String) (kind : DataKind)
  /-- A field is to become a vector and a reference. -/
  | vectorAndReference (ident : String)
  /-- A name comes more than once in its scope. -/
  | nameClash (scope : NameScope) (name : String)
  /-- Nested types are entered too deeply. -/
  | tooDeep (field : String) (maxDepth : Nat)
  /-- A setting of the collection does not fit in 32 bits where it is narrowed to them. -/
  | settingOutOfRange (setting : String) (value : Int)
  /-- Settings of the collection are out of range. -/
  | settingsOutOfRange (violations : List Violation)
deriving DecidableEq, Repr

namespace SynthesisError

/-- The text of an error. -/
def message : SynthesisError → String
  | noKind typeName ident valueType =>
    s!"Field '{ident}' of '{typeName}' has type {valueType} which maps to no data kind"
  | hookNotFound owner hook => s!"Hook '{hook}' not found on '{owner}'"
  | wrongHookShape owner hook expected found =>
    s!"Hook '{hook}' on '{owner}' is {found.text}, expected {expected.text}"
  | needlessParameter vector parameter =>
    s!"Vector '{vector}' is self-provided and cannot set {parameter.phrase}"
  | missingParameter vector moduleName parameter =>
    s!"Vector '{vector}' uses {moduleName} which requires {parameter.phrase}"
  | unknownSource vector source expected =>
    s!"Vector '{vector}' reads '{source}' which is not a {expected.word} of the collection"
  | tokenizedNonText field kind =>
    s!"Field '{field}' sets tokenization but its kind {kind.name} is not text"
  | noNestedType field kind =>
    s!"Field '{field}' has kind {kind.name} but no nested type to describe it"
  | vectorAndReference ident =>
    s!"Field '{ident}' carries both a vector and a reference directive"
  | nameClash scope name => s!"Duplicate {scope.name} name '{name}'"
  | tooDeep field maxDepth => s!"Field '{field}' nests deeper than {maxDepth} levels"
  | settingOutOfRange setting value =>
    s!"Collection setting {setting} is {value}, outside the u32 range"
  | settingsOutOfRange violations =>
    let texts := violations.map fun v => s!"{v.path}: {v.message}"
    "Invalid collection directive: Validation error: " ++ "\n".intercalate texts

/-- Every error is an argument that is not valid. -/
def code (_ : SynthesisError) : ErrorCode :=
  .invalidArgument

end SynthesisError

end CollectionSchema
