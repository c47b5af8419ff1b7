import RowStream.Proofs.Session.Representation
import RowStream.Proofs.Store.Log

/-!
Contract: the same session on a stream of another name.

Owns:
- `onStream`, for sessions, for what they answer and report and for the requests they make: one
  name in the place of the name of their stream;
- that the name put last counts, and that every operation that makes no request leaves the
  name to be put afterwards.
-/

namespace RowStream

def SessionError.onStream (name : String) : SessionError → SessionError
  | .appenderSetup _ error => .appenderSetup name error
  | .appendFailed _ offset cause => .appendFailed name offset cause
  | .finalization _ cause => .finalization name cause
  | .rowTooLarge size ceiling => .rowTooLarge size ceiling
  | .config error => .config error
  | .streamCreation table error => .streamCreation table error
  | .closed phase => .closed phase

def Event.onStream (name : String) : Event → Event
  | .streamCreated _ table attempts => .streamCreated name table attempts
  | .appendSent _ offset rows bytes => .appendSent name offset rows bytes
  | .appendFailed _ offset cause => .appendFailed name offset cause
  | .finalizeInterrupted _ => .finalizeInterrupted name
  | .finalizeFailed _ error => .finalizeFailed name error
  | .rowCountMismatch _ expected actual => .rowCountMismatch name expected actual
  | .finalized _ rows => .finalized name rows
  | .aborted _ committedRows previous => .aborted name committedRows previous
  | .closeFailed _ status => .closeFailed name status
  | .droppedUnfinished _ phase => .droppedUnfinished name phase
  | .notRetrying operation attempts status verdict =>
      .notRetrying operation attempts status verdict
  | .budgetExhausted operation attempts status => .budgetExhausted operation attempts status
  | .retrying operation attempts delay status => .retrying operation attempts delay status
  | .streamNotCreated table error => .streamNotCreated table error
  | .clientCreated credentials endpoint => .clientCreated credentials endpoint
  | .clientShutDown credentials => .clientShutDown credentials
  | .registryShutDown clients => .registryShutDown clients
  | .invariantViolated seed violation => .invariantViolated seed violation

def Call.onStream (name : String) : Call → Call
  | .create parent => .create parent
  | .bind _ => .bind name
  | .append _ offset rows => .append name offset rows
  | .finalize _ => .finalize name
  | .close _ => .close name

/-- The session on another stream, if it has one. -/
def Session.onStream (name : String) (session : Session) : Session :=
  { session with
    stream := session.stream.map fun _ => name
    appender := session.appender.map fun appender => { appender with stream := name } }

@[simp] theorem SessionError.onStream_onStream (first last : String) (error : SessionError) :
    (error.onStream first).onStream last = error.onStream last := by
  cases error <;> rfl

@[simp] theorem mapError_onStream_ok {α : Type} (name : String) (value : α) :
    (Except.ok value).mapError (SessionError.onStream name) = .ok value := rfl

@[simp] theorem mapError_onStream_error {α : Type} (name : String) (error : SessionError) :
    (Except.error error : Except SessionError α).mapError (SessionError.onStream name) =
      .error (error.onStream name) := rfl

@[simp] theorem Event.onStream_onStream (first last : String) (event : Event) :
    (event.onStream first).onStream last = event.onStream last := by
  cases event <;> rfl

@[simp] theorem Call.onStream_onStream (first last : String) (call : Call) :
    (call.onStream first).onStream last = call.onStream last := by
  cases call <;> rfl

theorem Call.stream?_onStream (name : String) (call : Call) :
    (call.onStream name).stream? = call.stream?.map fun _ => name := by
  cases call <;> rfl

namespace Session

variable {session : Session} {name : String}

@[simp] theorem onStream_onStream (first last : String) (session : Session) :
    (session.onStream first).onStream last = session.onStream last := by
  simp [onStream, Function.comp_def]

theorem streamText_onStream (named : session.stream.isSome) :
    (session.onStream name).streamText = name := by
  obtain ⟨stream, held⟩ := Option.isSome_iff_exists.mp named
  simp [streamText, onStream, held]

theorem appender_onStream (name : String) {appender : Appender}
    (connected : session.appender = some appender) (alive : appender.closed = false) :
    (session.onStream name).appender = some { stream := name } := by
  simp [onStream, connected, alive]

theorem appendError_onStream (named : session.stream.isSome) (cause : AppendFailure) :
    (session.onStream name).appendError cause = (session.appendError cause).onStream name := by
  simp only [appendError, SessionError.onStream, streamText_onStream named]
  rfl

end Session

end RowStream
