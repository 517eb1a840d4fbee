import CollectionSchema.DataKind
import CollectionSchema.ErrorCode

/-!
Reports on how a model fits a schema: errors, which make it unfit, and warnings, which do not.

`Report.verdict` turns a report with errors into a `SchemaMismatch`, the failure that carries all
of them.
-/

namespace CollectionSchema

/-- What is wrong with a field. -/
inductive MismatchKind where
  /-- The kinds differ. -/
  | typeMismatch
  /-- The kinds differ only in that one of them is the list of the other. -/
  | arrayMismatch
  /-- The type of the field has no kind. -/
  | noKind
deriving DecidableEq, Repr

namespace MismatchKind

/-- The word for a kind of error. -/
def name : MismatchKind → String
  | typeMismatch => "type_mismatch"
  | arrayMismatch => "array_mismatch"
  | noKind => "unsupported_type"

/-- The kinds of errors in order. -/
def all : List MismatchKind :=
  [typeMismatch, arrayMismatch, noKind]

instance : Enumeration MismatchKind where
  values := all
  word := name

end MismatchKind

/-- What exists on one side only. -/
inductive WarningKind where
  /-- A field without a property or reference in the schema. -/
  | extraProperty
  /-- A property or reference without a field. -/
  | missingProperty
  /-- A vector without a vector in the schema. -/
  | unknownVector
deriving DecidableEq, Repr

namespace WarningKind

/-- The word for a kind of warning. -/
def name : WarningKind → String
  | extraProperty => "extra_property"
  | missingProperty => "missing_property"
  | unknownVector => "unknown_vector"

/-- The kinds of warnings in order. -/
def all : List WarningKind :=
  [extraProperty, missingProperty, unknownVector]

instance : Enumeration WarningKind where
  values := all
  word := name

end WarningKind

/-- An error: a field that cannot be stored in its property. The expected kind is that of the
schema, the actual one that of the field. -/
structure Mismatch where
  path : String
  message : String
  kind : MismatchKind
  expected : Option DataKind := none
  actual : Option DataKind := none
deriving DecidableEq, Repr

/-- The line shown for an error. -/
def Mismatch.render (m : Mismatch) : String :=
  s!"{m.path}: {m.message}"

/-- A warning: something that the model or the schema has alone. -/
structure Warning where
  path : String
  message : String
  kind : WarningKind
deriving DecidableEq, Repr

/-- The line shown for a warning. -/
def Warning.render (w : Warning) : String :=
  s!"{w.path}: {w.message}"

/-- The outcome of a check: errors and warnings, each in the order in which they were found. -/
structure Report where
  errors : List Mismatch := []
  warnings : List Warning := []
deriving DecidableEq, Repr

/-- The failure of a model that does not fit a schema. -/
structure SchemaMismatch where
  collection : Option String
  errors : List Mismatch
deriving DecidableEq, Repr

namespace SchemaMismatch

/-- Says which collection was meant. -/
def about (m : SchemaMismatch) (collection : String) : SchemaMismatch :=
  { m with collection := some collection }

/-- The text of the failure, all errors included. -/
def message (m : SchemaMismatch) : String :=
  let count := m.errors.length
  let headline :=
    match m.collection with
    | some collection =>
      s!"Model does not match schema of collection '{collection}' ({count} error(s))"
    | none => s!"Model does not match schema ({count} error(s))"
  headline ++ String.join (m.errors.map fun e => "; " ++ e.render)

/-- A model that does not fit is a precondition that fails. -/
def code (_ : SchemaMismatch) : ErrorCode :=
  .failedPrecondition

end SchemaMismatch

namespace Report

/-- A report of one error. -/
def ofError (e : Mismatch) : Report :=
  { errors := [e] }

/-- A report of one warning. -/
def ofWarning (w : Warning) : Report :=
  { warnings := [w] }

/-- The findings of one report after those of another. -/
def append (a b : Report) : Report :=
  ⟨a.errors ++ b.errors, a.warnings ++ b.warnings⟩

instance : Append Report where
  append := append

/-- The findings of several reports. -/
def join (reports : List Report) : Report :=
  ⟨reports.flatMap (·.errors), reports.flatMap (·.warnings)⟩

/-- Whether there are no errors. -/
def isValid (r : Report) : Bool :=
  r.errors.isEmpty

/-- The errors of a kind. -/
def errorsOf (r : Report) (kind : MismatchKind) : List Mismatch :=
  r.errors.filter (·.kind == kind)

/-- The warnings of a kind. -/
def warningsOf (r : Report) (kind : WarningKind) : List Warning :=
  r.warnings.filter (·.kind == kind)

/-- The report itself if it is valid, and the failure with all its errors if not. -/
def verdict (r : Report) : Except SchemaMismatch Report :=
  if r.isValid then .ok r else .error ⟨none, r.errors⟩

/-! ### Joining reports -/

@[simp]
theorem errors_append (a b : Report) : (a ++ b).errors = a.errors ++ b.errors := rfl

@[simp]
theorem warnings_append (a b : Report) : (a ++ b).warnings = a.warnings ++ b.warnings := rfl

@[simp]
theorem errors_join (reports : List Report) :
    (join reports).errors = reports.flatMap (·.errors) := rfl

@[simp]
theorem warnings_join (reports : List Report) :
    (join reports).warnings = reports.flatMap (·.warnings) := rfl

end Report

end CollectionSchema
