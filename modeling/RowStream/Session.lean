import RowStream.Retry.Run

/-!
Contract: one producer's session on a stream of its own.

Owns:
- `Session`, the buffered rows, the counters and the phase;
- its operations: `start`, `add`, `commit`, `abort` and `release`.

Rows are buffered until one more would not fit into a request; the buffer is then sent at
the offset of the rows acknowledged so far. An append is never repeated: one that does
not succeed leaves the buffer as it is and fails the session. Committing sends what is
buffered, pauses, finalizes the stream and compares the number of rows.
-/

namespace RowStream

/-- What a session counts for its owner. -/
structure SessionStats where
  appendRequests : Nat := 0
  rowsAppended : Nat := 0
  bytesAppended : Nat := 0
  /-- Flushes made because a row did not fit. -/
  flushesForced : Nat := 0
  createAttempts : Nat := 0
  finalizeAttempts : Nat := 0
deriving DecidableEq, Repr

structure Session where
  table : String
  schema : Schema
  config : Config
  /-- The name of the stream, until the session is aborted. -/
  stream : Option String
  appender : Option Appender
  /-- Rows that no append has been acknowledged for. -/
  pending : Batch := {}
  pendingBytes : Nat := 0
  pendingCount : Nat := 0
  /-- Rows acknowledged so far, which is the offset of the next append. -/
  committedCount : Nat := 0
  phase : Phase := .open
  stats : SessionStats := {}
  random : Random

namespace Session

variable {σ : Type}

/-- Largest payload of one append request, in bytes. -/
def ceiling (session : Session) : Nat := session.config.ceiling

/-- The stream's name, or no text at all once it was given up. -/
def streamText (session : Session) : String := session.stream.getD ""

/-- The offset that the next append claims. -/
def nextOffset (session : Session) : UInt64 := UInt64.ofNat session.committedCount

/-- Opens a session: creates a stream under `table` and connects to it. A configuration
with a flaw is refused before any request. -/
def start (environment : Environment σ) (table : String) (schema : Schema) (config : Config)
    (random : Random) (state : σ) : Except SessionError Session × σ :=
  match config.validate with
  | .error flaw => (.error (.config (.invalid flaw)), state)
  | .ok () =>
      let created := Retry.run environment.host config.retry config.retryableCodes
        "create_write_stream" (environment.client.create table .pending) random state
      match created.outcome with
      | .error error =>
          (.error (.streamCreation table error),
            environment.host.report (.streamNotCreated table error) created.state)
      | .ok retried =>
          let stream := retried.value.name
          match environment.client.bind stream schema created.state with
          | (.error error, state) => (.error (.appenderSetup stream error), state)
          | (.ok appender, state) =>
              (.ok
                { table := table
                  schema := schema
                  config := config
                  stream := some stream
                  appender := some appender
                  stats := { createAttempts := retried.attempts }
                  random := created.random },
                environment.host.report (.streamCreated stream table retried.attempts) state)

/-- Releases the connection, if there still is one. -/
def closeAppender (environment : Environment σ) (session : Session) (state : σ) :
    Session × σ :=
  match session.appender with
  | none => (session, state)
  | some appender =>
      let session := { session with appender := none }
      match environment.client.close appender state with
      | (.ok (), state) => (session, state)
      | (.error status, state) =>
          (session, environment.host.report (.closeFailed session.streamText status) state)

/-- What a reply says about an append at `expected`. Silence ends only by cancellation. -/
def judgeReply (expected : UInt64) : AppendReply → Except AppendFailure Unit
  | .lost status => .error (.transport status)
  | .rejected status => .error (.server status)
  | .appended actual =>
      if actual = expected then .ok () else .error (.offsetMismatch expected actual)
  | .silent => .error .interrupted

/-- Fails the session because of an append. -/
def failAppend (environment : Environment σ) (cause : AppendFailure) (session : Session)
    (state : σ) : Except SessionError Unit × Session × σ :=
  (.error (.appendFailed session.streamText session.nextOffset cause),
    { session with phase := .failed },
    environment.host.report (.appendFailed session.streamText session.nextOffset cause) state)

/-- The session after its buffer was acknowledged. -/
def acknowledge (session : Session) : Session :=
  { session with
    pending := {}
    pendingBytes := 0
    pendingCount := 0
    committedCount := session.committedCount + session.pendingCount
    stats :=
      { session.stats with
        rowsAppended := session.stats.rowsAppended + session.pendingCount
        bytesAppended := session.stats.bytesAppended + session.pendingBytes } }

/-- Sends the buffer as one append. Counters move only when it is acknowledged at the
offset it claimed. -/
def flush (environment : Environment σ) (session : Session) (state : σ) :
    Except SessionError Unit × Session × σ :=
  if environment.host.cancelled state then
    session.failAppend environment .interrupted state
  else
    match session.appender with
    | none => (.error (.closed session.phase), session, state)
    | some appender =>
        let state := environment.host.report
          (.appendSent session.streamText session.nextOffset session.pendingCount
            session.pendingBytes) state
        let (reply, state) :=
          environment.client.append appender session.pending session.nextOffset state
        let session :=
          { session with
            stats := { session.stats with appendRequests := session.stats.appendRequests + 1 } }
        match judgeReply session.nextOffset reply with
        | .error cause => session.failAppend environment cause state
        | .ok () => (.ok (), session.acknowledge, state)

/-- The session with one more row buffered. -/
def buffer (row : Row) (session : Session) : Session :=
  { session with
    pending := session.pending.push row
    pendingBytes := session.pendingBytes + row.size
    pendingCount := session.pendingCount + 1 }

def countForcedFlush (session : Session) : Session :=
  { session with
    stats := { session.stats with flushesForced := session.stats.flushesForced + 1 } }

/-- Buffers a row, sending what is buffered first if both do not fit into one request. A
row that is too large on its own is refused and changes nothing. -/
def add (environment : Environment σ) (row : Row) (session : Session) (state : σ) :
    Except SessionError Unit × Session × σ :=
  if session.phase ≠ .open then
    (.error (.closed session.phase), session, state)
  else if session.pendingBytes + row.size ≤ session.ceiling then
    (.ok (), session.buffer row, state)
  else if session.ceiling < row.size then
    (.error (.rowTooLarge row.size session.ceiling), session, state)
  else
    match session.flush environment state with
    | (.error error, session, state) => (.error error, session, state)
    | (.ok (), session, state) => (.ok (), session.countForcedFlush.buffer row, state)

def fail (session : Session) : Session := { session with phase := .failed }

/-- The second half of a commit: pauses, finalizes and compares the number of rows. -/
def conclude (environment : Environment σ) (session : Session) (state : σ) :
    Except SessionError Nat × Session × σ :=
  let stream := session.streamText
  let state := environment.host.sleep session.config.finalizeQuiescence state
  if environment.host.cancelled state then
    (.error (.finalization stream .interrupted), session.fail,
      environment.host.report (.finalizeInterrupted stream) state)
  else
    let finalized := Retry.run environment.host session.config.retry
      session.config.retryableCodes "finalize_write_stream"
      (environment.client.finalize stream) session.random state
    let session := { session with random := finalized.random }
    match finalized.outcome with
    | .error error =>
        (.error (.finalization stream (.retry error)), session.fail,
          environment.host.report (.finalizeFailed stream error) finalized.state)
    | .ok retried =>
        let session :=
          { session with
            stats := { session.stats with finalizeAttempts := retried.attempts } }
        let expected := session.committedCount
        let actual := retried.value
        if actual ≠ expected then
          (.error (.finalization stream (.rowCountMismatch expected actual)), session.fail,
            environment.host.report (.rowCountMismatch stream expected actual) finalized.state)
        else
          let (session, state) :=
            { session with phase := .committed }.closeAppender environment finalized.state
          (.ok actual, session, environment.host.report (.finalized stream actual) state)

/-- Sends what is buffered and finalizes the stream; answers its number of rows. -/
def commit (environment : Environment σ) (session : Session) (state : σ) :
    Except SessionError Nat × Session × σ :=
  if session.phase ≠ .open then
    (.error (.closed session.phase), session, state)
  else if session.pending.isEmpty then
    session.conclude environment state
  else
    match session.flush environment state with
    | (.error error, session, state) => (.error error, session, state)
    | (.ok (), session, state) => session.conclude environment state

/-- Gives the stream up without finalizing it. Possible in every phase; never fails. -/
def abort (environment : Environment σ) (session : Session) (state : σ) : Session × σ :=
  let cleared := { session with pending := {}, pendingBytes := 0, pendingCount := 0 }
  let (closed, state) := cleared.closeAppender environment state
  let aborted := { closed with stream := none, phase := .aborted }
  match closed.stream with
  | none => (aborted, state)
  | some stream =>
      (aborted,
        environment.host.report (.aborted stream closed.committedCount closed.phase) state)

/-- What happens when a session is let go of: a connection still held is released. -/
def release (environment : Environment σ) (session : Session) (state : σ) : σ :=
  match session.appender with
  | none => state
  | some _ =>
      let state :=
        environment.host.report (.droppedUnfinished session.streamText session.phase) state
      (session.closeAppender environment state).2

end Session

end RowStream
