/-!
Error codes: the coarse causes that every failure of the library is filed under, with the numbers
that remote procedure calls use for them.
-/

namespace CollectionSchema

/-- The cause of a failure. -/
inductive ErrorCode where
  | success
  | unknown
  | invalidArgument
  | notFound
  | alreadyExists
  | failedPrecondition
  | unimplemented
  | internal
  | unavailable
deriving DecidableEq, Repr

namespace ErrorCode

/-- The number of a code. -/
def number : ErrorCode → Nat
  | success => 0
  | unknown => 2
  | invalidArgument => 3
  | notFound => 5
  | alreadyExists => 6
  | failedPrecondition => 9
  | unimplemented => 12
  | internal => 13
  | unavailable => 14

/-- The name shown for a code. The codes that callers need not tell apart share one name. -/
def name : ErrorCode → String
  | invalidArgument => "InvalidArgumentError"
  | notFound => "NotFoundError"
  | failedPrecondition => "FailedPreconditionError"
  | internal => "InternalError"
  | unavailable => "UnavailableError"
  | success | unknown | alreadyExists | unimplemented => "TrellisError"

end ErrorCode

end CollectionSchema
