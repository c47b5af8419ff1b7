/-!
Contract: the status with which a service or its transport refuses a request.

Owns:
- `StatusCode`, the sixteen canonical failure codes, ordered as declared;
- their printed names and the reader of those names;
- `Status`, a code with a message.

Main statement: `StatusCode.ofName?_name`, a code is read back from its printed name.
-/

namespace RowStream

/-- Canonical failure codes. -/
inductive StatusCode where
  | cancelled
  | unknown
  | invalidArgument
  | deadlineExceeded
  | notFound
  | alreadyExists
  | permissionDenied
  | resourceExhausted
  | failedPrecondition
  | aborted
  | outOfRange
  | unimplemented
  | internal
  | unavailable
  | dataLoss
  | unauthenticated
deriving DecidableEq, Repr

namespace StatusCode

/-- Every code, in declaration order. -/
def all : List StatusCode :=
  [.cancelled, .unknown, .invalidArgument, .deadlineExceeded, .notFound, .alreadyExists,
   .permissionDenied, .resourceExhausted, .failedPrecondition, .aborted, .outOfRange,
   .unimplemented, .internal, .unavailable, .dataLoss, .unauthenticated]

def name : StatusCode → String
  | .cancelled => "CANCELLED"
  | .unknown => "UNKNOWN"
  | .invalidArgument => "INVALID_ARGUMENT"
  | .deadlineExceeded => "DEADLINE_EXCEEDED"
  | .notFound => "NOT_FOUND"
  | .alreadyExists => "ALREADY_EXISTS"
  | .permissionDenied => "PERMISSION_DENIED"
  | .resourceExhausted => "RESOURCE_EXHAUSTED"
  | .failedPrecondition => "FAILED_PRECONDITION"
  | .aborted => "ABORTED"
  | .outOfRange => "OUT_OF_RANGE"
  | .unimplemented => "UNIMPLEMENTED"
  | .internal => "INTERNAL"
  | .unavailable => "UNAVAILABLE"
  | .dataLoss => "DATA_LOSS"
  | .unauthenticated => "UNAUTHENTICATED"

/-- The code that prints as `text`. -/
def ofName? (text : String) : Option StatusCode :=
  all.find? fun code => code.name == text

/-- Position in declaration order. -/
def rank (code : StatusCode) : Nat := code.ctorIdx

instance : LE StatusCode := ⟨fun left right => left.rank ≤ right.rank⟩

instance (left right : StatusCode) : Decidable (left ≤ right) :=
  inferInstanceAs (Decidable (left.rank ≤ right.rank))

theorem mem_all (code : StatusCode) : code ∈ all := by
  cases code <;> decide

/-- A code is read back from its printed name. -/
theorem ofName?_name (code : StatusCode) : ofName? code.name = some code := by
  cases code <;> decide +kernel

end StatusCode

/-- Why a request was refused. -/
structure Status where
  code : StatusCode
  message : String
deriving DecidableEq, Repr

namespace Status

def unavailable (message : String) : Status := ⟨.unavailable, message⟩

def invalidArgument (message : String) : Status := ⟨.invalidArgument, message⟩

def cancelled (message : String) : Status := ⟨.cancelled, message⟩

/-- The code's name and the message, as shown to people. -/
def text (status : Status) : String :=
  s!"{status.code.name}: {status.message}"

end Status

end RowStream
