import RowStream.Config
import RowStream.Retry.Error

/-!
Contract: the phases of a session and the ways in which its operations fail.

Owns:
- `Phase`, where a session stands in its life;
- `AppendFailure` and `FinalizeFailure`, why the two kinds of request failed;
- `SessionError`, what an operation on a session reports, its text and its causes.
-/

namespace RowStream

/-- Where a session stands in its life. -/
inductive Phase where
  | open
  | committed
  | aborted
  /-- A flush or the finalization failed; only aborting is left. -/
  | failed
deriving DecidableEq, Hashable, Repr

def Phase.all : List Phase := [.open, .committed, .aborted, .failed]

theorem Phase.mem_all (phase : Phase) : phase ∈ all := by
  cases phase <;> decide

def Phase.name : Phase → String
  | .open => "open"
  | .committed => "committed"
  | .aborted => "aborted"
  | .failed => "failed"

/-- Why an append request did not succeed. -/
inductive AppendFailure where
  /-- The response was lost. -/
  | transport (status : Status)
  /-- Cancelled before the request or while waiting for its response. -/
  | interrupted
  /-- The service refused the request. -/
  | server (status : Status)
  /-- The service acknowledged another offset than the one requested. -/
  | offsetMismatch (expected actual : UInt64)
deriving DecidableEq, Repr

def AppendFailure.text : AppendFailure → String
  | .transport status => s!"could not retrieve append response: {status.text}"
  | .interrupted => "interrupted while awaiting append response"
  | .server status => s!"append request failed with error: {status.message}"
  | .offsetMismatch expected actual =>
      s!"offset {actual} did not match expected offset {expected}"

/-- Why a stream could not be finalized. -/
inductive FinalizeFailure where
  | retry (error : RetryError)
  /-- Cancelled during the pause before the request. -/
  | interrupted
  /-- The service counts other rows than the session appended. -/
  | rowCountMismatch (expected actual : Nat)
deriving DecidableEq, Repr

def FinalizeFailure.text : FinalizeFailure → String
  | .retry error => error.text
  | .interrupted => "interrupted while waiting before finalization"
  | .rowCountMismatch expected actual =>
      s!"expected finalized row count {expected} but received {actual}"

/-- What an operation on a session reports. -/
inductive SessionError where
  /-- One row is larger than a request may be. -/
  | rowTooLarge (size ceiling : Nat)
  | config (error : ConfigError)
  | streamCreation (table : String) (error : RetryError)
  | appenderSetup (stream : String) (error : SystemError)
  | appendFailed (stream : String) (offset : UInt64) (cause : AppendFailure)
  | finalization (stream : String) (cause : FinalizeFailure)
  /-- The session is past the phase in which rows can be added. -/
  | closed (phase : Phase)

namespace SessionError

def text : SessionError → String
  | .rowTooLarge size ceiling =>
      s!"a single row of size {size} bytes exceeded the maximum of {ceiling} bytes " ++
        "for an append-rows request"
  | .config error => error.text
  | .streamCreation table error => s!"could not create write-stream for {table}: {error.text}"
  | .appenderSetup stream error => s!"could not build stream appender for {stream}: {error.text}"
  | .appendFailed stream offset cause =>
      s!"on stream {stream} append at offset {offset}: {cause.text}"
  | .finalization stream cause => s!"on stream {stream} finalization: {cause.text}"
  | .closed phase => s!"write-stream session is {phase.name}"

/-- The texts of the underlying errors, outermost first. -/
def causes : SessionError → List String
  | .config error => error.text :: error.causes
  | .streamCreation _ error => error.text :: error.causes
  | .appenderSetup _ error => [error.text]
  | .appendFailed _ _ (.transport status) => [status.text]
  | .appendFailed _ _ (.server status) => [status.text]
  | .finalization _ (.retry error) => error.text :: error.causes
  | _ => []

/-- The expected and the reported number of rows, where the two differ. -/
def rowCountMismatch? : SessionError → Option (Nat × Nat)
  | .finalization _ (.rowCountMismatch expected actual) => some (expected, actual)
  | _ => none

end SessionError

end RowStream
