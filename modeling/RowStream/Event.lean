import RowStream.Session.Error

/-!
Contract: what the library reports about its work while it works.

Owns:
- `Event`, one constructor for each kind of report;
- the level, the message and the named fields under which each is written.
-/

namespace RowStream

inductive Level where
  | error
  | warn
  | info
  | debug
deriving DecidableEq, Repr

def Level.name : Level → String
  | .error => "ERROR"
  | .warn => "WARN"
  | .info => "INFO"
  | .debug => "DEBUG"

/-- Something worth reporting. -/
inductive Event where
  | notRetrying (operation : String) (attempts : Nat) (status : Status) (verdict : Verdict)
  | budgetExhausted (operation : String) (attempts : Nat) (status : Status)
  | retrying (operation : String) (attempts : Nat) (delay : Duration) (status : Status)
  | streamNotCreated (table : String) (error : RetryError)
  | streamCreated (stream table : String) (attempts : Nat)
  | appendSent (stream : String) (offset : UInt64) (rows bytes : Nat)
  | appendFailed (stream : String) (offset : UInt64) (cause : AppendFailure)
  | finalizeInterrupted (stream : String)
  | finalizeFailed (stream : String) (error : RetryError)
  | rowCountMismatch (stream : String) (expected actual : Nat)
  | finalized (stream : String) (rows : Nat)
  | aborted (stream : String) (committedRows : Nat) (previous : Phase)
  | closeFailed (stream : String) (status : Status)
  | droppedUnfinished (stream : String) (phase : Phase)
  | clientCreated (credentials endpoint : String)
  | clientShutDown (credentials : String)
  | registryShutDown (clients : Nat)
  | invariantViolated (seed : UInt64) (violation : String)

namespace Event

def level : Event → Level
  | .notRetrying .. => .debug
  | .budgetExhausted .. => .warn
  | .retrying .. => .warn
  | .streamNotCreated .. => .error
  | .streamCreated .. => .info
  | .appendSent .. => .debug
  | .appendFailed .. => .error
  | .finalizeInterrupted .. => .error
  | .finalizeFailed .. => .error
  | .rowCountMismatch .. => .error
  | .finalized .. => .debug
  | .aborted .. => .info
  | .closeFailed .. => .warn
  | .droppedUnfinished .. => .warn
  | .clientCreated .. => .debug
  | .clientShutDown .. => .debug
  | .registryShutDown .. => .info
  | .invariantViolated .. => .error

def message : Event → String
  | .notRetrying .. => "not retrying"
  | .budgetExhausted .. => "retry budget exhausted"
  | .retrying .. => "transient failure, retrying"
  | .streamNotCreated .. => "could not create write-stream"
  | .streamCreated .. => "write-stream created"
  | .appendSent .. => "sending append request"
  | .appendFailed .. => "append failed"
  | .finalizeInterrupted .. => "interrupted while waiting before finalization"
  | .finalizeFailed .. => "could not finalize write-stream"
  | .rowCountMismatch .. => "finalized row count does not match appended rows"
  | .finalized .. => "write-stream finalized"
  | .aborted .. => "write-stream aborted"
  | .closeFailed .. => "failed to close stream appender"
  | .droppedUnfinished .. => "session dropped without commit or abort"
  | .clientCreated .. => "write client created"
  | .clientShutDown .. => "shutting down write client"
  | .registryShutDown .. => "write client registry shut down"
  | .invariantViolated _ violation => violation

/-- The named details of a report. -/
def fields : Event → List (String × String)
  | .notRetrying operation attempts status verdict =>
      [("operation", operation), ("attempts", toString attempts), ("status", status.text),
       ("decision", verdict.name)]
  | .budgetExhausted operation attempts status =>
      [("operation", operation), ("attempts", toString attempts), ("status", status.text)]
  | .retrying operation attempts delay status =>
      [("operation", operation), ("attempts", toString attempts),
       ("delay_ms", toString delay.millisWord), ("status", status.text)]
  | .streamNotCreated table error => [("table", table), ("error", error.text)]
  | .streamCreated stream table attempts =>
      [("stream", stream), ("table", table), ("attempts", toString attempts)]
  | .appendSent stream offset rows bytes =>
      [("stream", stream), ("offset", toString offset), ("rows", toString rows),
       ("bytes", toString bytes)]
  | .appendFailed stream offset cause =>
      [("stream", stream), ("offset", toString offset), ("cause", cause.text)]
  | .finalizeInterrupted stream => [("stream", stream)]
  | .finalizeFailed stream error => [("stream", stream), ("error", error.text)]
  | .rowCountMismatch stream expected actual =>
      [("stream", stream), ("expected", toString expected), ("actual", toString actual)]
  | .finalized stream rows => [("stream", stream), ("row_count", toString rows)]
  | .aborted stream committedRows previous =>
      [("stream", stream), ("committed_rows", toString committedRows),
       ("previous_state", previous.name)]
  | .closeFailed stream status => [("stream", stream), ("status", status.text)]
  | .droppedUnfinished stream phase => [("stream", stream), ("state", phase.name)]
  | .clientCreated credentials endpoint =>
      [("credentials", credentials), ("endpoint", endpoint)]
  | .clientShutDown credentials => [("credentials", credentials)]
  | .registryShutDown clients => [("clients", toString clients)]
  | .invariantViolated seed _ => [("seed", toString seed)]

end Event

end RowStream
