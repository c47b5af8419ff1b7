import RowStream.Session

/-!
Contract: everything that an operation of a session can come to, said once.

Owns:
- `FlushStep`, `ConcludeStep`, `AddStep` and `CommitStep`: one constructor a way in which
  the operation ends, with its result, the session and the state it leaves;
- for each operation the proof that it always ends in one of these ways.

They hold in every environment. Later proofs take these cases and do not open the
operations again.
-/

namespace RowStream.Session

variable {σ : Type} {environment : Environment σ} {session : Session} {state : σ}

def countRequest (session : Session) : Session :=
  { session with
    stats := { session.stats with appendRequests := session.stats.appendRequests + 1 } }

/-- The state in which an append request is made. -/
def announce (environment : Environment σ) (session : Session) (state : σ) : σ :=
  environment.host.report
    (.appendSent session.streamText session.nextOffset session.pendingCount session.pendingBytes)
    state

def reportFailure (environment : Environment σ) (session : Session) (cause : AppendFailure)
    (state : σ) : σ :=
  environment.host.report (.appendFailed session.streamText session.nextOffset cause) state

def appendError (session : Session) (cause : AppendFailure) : SessionError :=
  .appendFailed session.streamText session.nextOffset cause

theorem judgeReply_eq_ok_iff {expected : UInt64} {reply : AppendReply} :
    judgeReply expected reply = .ok () ↔ reply = .appended expected := by
  cases reply with
  | appended actual =>
      simp only [judgeReply, AppendReply.appended.injEq]
      by_cases same : actual = expected
      · simp [same]
      · simp [same]
  | rejected status => simp [judgeReply]
  | lost status => simp [judgeReply]
  | silent => simp [judgeReply]

/-! ### Opening -/

def fresh (table : String) (schema : Schema) (config : Config) (appender : Appender)
    (created : Retried CreatedStream) (random : Random) : Session where
  table := table
  schema := schema
  config := config
  stream := some created.value.name
  appender := some appender
  stats := { createAttempts := created.attempts }
  random := random

def creating (environment : Environment σ) (table : String) (config : Config) (random : Random)
    (state : σ) : RetryRun CreatedStream σ :=
  Retry.run environment.host config.retry config.retryableCodes "create_write_stream"
    (environment.client.create table .pending) random state

inductive StartStep (environment : Environment σ) (table : String) (schema : Schema)
    (config : Config) (random : Random) (state : σ) : Except SessionError Session × σ → Prop where
  | invalid {flaw : ConfigFlaw} (flawed : config.validate = .error flaw) :
      StartStep environment table schema config random state
        (.error (.config (.invalid flaw)), state)
  | notCreated {error : RetryError} (valid : config.validate = .ok ())
      (gaveUp : (creating environment table config random state).outcome = .error error) :
      StartStep environment table schema config random state
        (.error (.streamCreation table error),
          environment.host.report (.streamNotCreated table error)
            (creating environment table config random state).state)
  | notBound {created : Retried CreatedStream} {error : SystemError} {after : σ}
      (valid : config.validate = .ok ())
      (answered : (creating environment table config random state).outcome = .ok created)
      (bound : environment.client.bind created.value.name schema
        (creating environment table config random state).state = (.error error, after)) :
      StartStep environment table schema config random state
        (.error (.appenderSetup created.value.name error), after)
  | opened {created : Retried CreatedStream} {appender : Appender} {after : σ}
      (valid : config.validate = .ok ())
      (answered : (creating environment table config random state).outcome = .ok created)
      (bound : environment.client.bind created.value.name schema
        (creating environment table config random state).state = (.ok appender, after)) :
      StartStep environment table schema config random state
        (.ok (fresh table schema config appender created
            (creating environment table config random state).random),
          environment.host.report
            (.streamCreated created.value.name table created.attempts) after)

theorem start_step (environment : Environment σ) (table : String) (schema : Schema)
    (config : Config) (random : Random) (state : σ) :
    StartStep environment table schema config random state
      (start environment table schema config random state) := by
  unfold start
  split
  · next flawed => exact .invalid flawed
  · next valid =>
      simp only
      split
      · next gaveUp => exact .notCreated valid gaveUp
      · next answered =>
          split
          · next bound => exact .notBound valid answered bound
          · next bound => exact .opened valid answered bound

theorem StartStep.session_eq {table : String} {schema : Schema} {config : Config}
    {random : Random} {ended : Except SessionError Session × σ}
    (step : StartStep environment table schema config random state ended)
    (started : ended.1 = .ok session) :
    ∃ appender created later, session = fresh table schema config appender created later := by
  cases step with
  | invalid flawed => exact absurd started (by simp)
  | notCreated valid gaveUp => exact absurd started (by simp)
  | notBound valid answered bound => exact absurd started (by simp)
  | opened valid answered bound => exact ⟨_, _, _, (Except.ok.inj started).symm⟩

/-! ### Sending the buffer -/

inductive FlushStep (environment : Environment σ) (session : Session) (state : σ) :
    Except SessionError Unit × Session × σ → Prop where
  /-- Cancelled before anything was sent. -/
  | interrupted (cancelled : environment.host.cancelled state = true) :
      FlushStep environment session state
        (.error (session.appendError .interrupted), session.fail,
          session.reportFailure environment .interrupted state)
  | unconnected (closed : session.appender = none) :
      FlushStep environment session state (.error (.closed session.phase), session, state)
  | rejected {appender : Appender} {reply : AppendReply} {cause : AppendFailure} {after : σ}
      (going : environment.host.cancelled state = false)
      (connected : session.appender = some appender)
      (sent : environment.client.append appender session.pending session.nextOffset
        (session.announce environment state) = (reply, after))
      (judged : judgeReply session.nextOffset reply = .error cause) :
      FlushStep environment session state
        (.error (session.appendError cause), session.countRequest.fail,
          session.reportFailure environment cause after)
  | acknowledged {appender : Appender} {after : σ}
      (going : environment.host.cancelled state = false)
      (connected : session.appender = some appender)
      (sent : environment.client.append appender session.pending session.nextOffset
        (session.announce environment state) = (.appended session.nextOffset, after)) :
      FlushStep environment session state (.ok (), session.countRequest.acknowledge, after)

theorem flush_step (environment : Environment σ) (session : Session) (state : σ) :
    FlushStep environment session state (session.flush environment state) := by
  unfold flush
  split
  · next cancelled => exact .interrupted cancelled
  · next going =>
      have going : environment.host.cancelled state = false := by simpa using going
      split
      · next closed => exact .unconnected closed
      · next appender connected =>
          cases sent : environment.client.append appender session.pending session.nextOffset
              (session.announce environment state) with
          | mk reply after =>
              have sending := sent
              unfold announce at sending
              simp only [sending]
              split
              · next cause judged => exact .rejected going connected sent judged
              · next judged =>
                  have accepted := judgeReply_eq_ok_iff.mp judged
                  rw [accepted] at sent
                  exact .acknowledged going connected sent

theorem FlushStep.config_eq {ended : Except SessionError Unit × Session × σ}
    (step : FlushStep environment session state ended) :
    ended.2.1.config = session.config := by
  cases step with
  | interrupted cancelled => rfl
  | unconnected closed => rfl
  | rejected going connected sent judged => rfl
  | acknowledged going connected sent => rfl

/-! ### Releasing the connection -/

theorem closeAppender_session (environment : Environment σ) (session : Session) (state : σ) :
    (session.closeAppender environment state).1 = { session with appender := none } := by
  unfold closeAppender
  split
  · next closed =>
      cases session
      simp only at closed
      rw [closed]
  · split <;> rfl

inductive CloseStep (environment : Environment σ) (session : Session) (state : σ) : σ → Prop where
  | absent (closed : session.appender = none) : CloseStep environment session state state
  | quiet {appender : Appender} {after : σ} (connected : session.appender = some appender)
      (called : environment.client.close appender state = (.ok (), after)) :
      CloseStep environment session state after
  | reported {appender : Appender} {status : Status} {after : σ}
      (connected : session.appender = some appender)
      (called : environment.client.close appender state = (.error status, after)) :
      CloseStep environment session state
        (environment.host.report (.closeFailed session.streamText status) after)

theorem closeAppender_step (environment : Environment σ) (session : Session) (state : σ) :
    CloseStep environment session state (session.closeAppender environment state).2 := by
  unfold closeAppender
  split
  · next closed => exact .absent closed
  · next appender connected =>
      split
      · next called => exact .quiet connected called
      · next called => exact .reported connected called

/-! ### Finalizing -/

def pause (environment : Environment σ) (session : Session) (state : σ) : σ :=
  environment.host.sleep session.config.finalizeQuiescence state

def finalizing (environment : Environment σ) (session : Session) (state : σ) :
    RetryRun Nat σ :=
  Retry.run environment.host session.config.retry session.config.retryableCodes
    "finalize_write_stream" (environment.client.finalize session.streamText) session.random
    (session.pause environment state)

def countFinalize (attempts : Nat) (random : Random) (session : Session) : Session :=
  { session with
    random := random
    stats := { session.stats with finalizeAttempts := attempts } }

def finish (session : Session) : Session :=
  { session with phase := .committed, appender := none }

/-- The end of a commit whose stream was finalized with the right number of rows. -/
def closing (environment : Environment σ) (session : Session) (state : σ) : σ :=
  ({ session with phase := .committed }.closeAppender environment state).2

inductive ConcludeStep (environment : Environment σ) (session : Session) (state : σ) :
    Except SessionError Nat × Session × σ → Prop where
  /-- Cancelled by the end of the pause. -/
  | interrupted (cancelled : environment.host.cancelled (session.pause environment state) = true) :
      ConcludeStep environment session state
        (.error (.finalization session.streamText .interrupted), session.fail,
          environment.host.report (.finalizeInterrupted session.streamText)
            (session.pause environment state))
  | refused {error : RetryError}
      (going : environment.host.cancelled (session.pause environment state) = false)
      (gaveUp : (session.finalizing environment state).outcome = .error error) :
      ConcludeStep environment session state
        (.error (.finalization session.streamText (.retry error)),
          { session with random := (session.finalizing environment state).random }.fail,
          environment.host.report (.finalizeFailed session.streamText error)
            (session.finalizing environment state).state)
  | miscounted {retried : Retried Nat}
      (going : environment.host.cancelled (session.pause environment state) = false)
      (answered : (session.finalizing environment state).outcome = .ok retried)
      (differs : retried.value ≠ session.committedCount) :
      ConcludeStep environment session state
        (.error (.finalization session.streamText
            (.rowCountMismatch session.committedCount retried.value)),
          (session.countFinalize retried.attempts
            (session.finalizing environment state).random).fail,
          environment.host.report
            (.rowCountMismatch session.streamText session.committedCount retried.value)
            (session.finalizing environment state).state)
  | finalized {retried : Retried Nat}
      (going : environment.host.cancelled (session.pause environment state) = false)
      (answered : (session.finalizing environment state).outcome = .ok retried)
      (agrees : retried.value = session.committedCount) :
      ConcludeStep environment session state
        (.ok retried.value,
          (session.countFinalize retried.attempts
            (session.finalizing environment state).random).finish,
          environment.host.report (.finalized session.streamText retried.value)
            ((session.countFinalize retried.attempts
              (session.finalizing environment state).random).closing environment
                (session.finalizing environment state).state))

theorem conclude_step (environment : Environment σ) (session : Session) (state : σ) :
    ConcludeStep environment session state (session.conclude environment state) := by
  by_cases cancelled : environment.host.cancelled (session.pause environment state) = true
  · have ended := ConcludeStep.interrupted cancelled
    unfold pause at cancelled
    simp only [conclude, if_pos cancelled]
    exact ended
  · have going : environment.host.cancelled (session.pause environment state) = false := by
      simpa using cancelled
    unfold pause at cancelled
    simp only [conclude, if_neg cancelled]
    split
    · next error gaveUp => exact .refused going gaveUp
    · next retried answered =>
        split
        · next differs => exact .miscounted going answered differs
        · next agrees =>
            have ended := ConcludeStep.finalized going answered (Classical.not_not.mp agrees)
            rw [closeAppender_session]
            exact ended

theorem ConcludeStep.config_eq {ended : Except SessionError Nat × Session × σ}
    (step : ConcludeStep environment session state ended) :
    ended.2.1.config = session.config := by
  cases step with
  | interrupted cancelled => rfl
  | refused going gaveUp => rfl
  | miscounted going answered differs => rfl
  | finalized going answered agrees => rfl

theorem ConcludeStep.committed_of_ok {ended : Except SessionError Nat × Session × σ}
    (step : ConcludeStep environment session state ended) {count : Nat}
    (answered : ended.1 = .ok count) : ended.2.1.phase = .committed := by
  cases step with
  | interrupted cancelled => simp at answered
  | refused going gaveUp => simp at answered
  | miscounted going reached differs => simp at answered
  | finalized going reached agrees => rfl

/-! ### Adding a row -/

inductive AddStep (environment : Environment σ) (row : Row) (session : Session) (state : σ) :
    Except SessionError Unit × Session × σ → Prop where
  | closed (past : session.phase ≠ .open) :
      AddStep environment row session state (.error (.closed session.phase), session, state)
  | buffered (isOpen : session.phase = .open)
      (fits : session.pendingBytes + row.size ≤ session.ceiling) :
      AddStep environment row session state (.ok (), session.buffer row, state)
  | tooLarge (isOpen : session.phase = .open) (large : session.ceiling < row.size) :
      AddStep environment row session state
        (.error (.rowTooLarge row.size session.ceiling), session, state)
  | stuck {error : SessionError} {failed : Session} {after : σ} (isOpen : session.phase = .open)
      (overflows : session.ceiling < session.pendingBytes + row.size)
      (fits : row.size ≤ session.ceiling)
      (flushed : FlushStep environment session state (.error error, failed, after)) :
      AddStep environment row session state (.error error, failed, after)
  | flushed {emptied : Session} {after : σ} (isOpen : session.phase = .open)
      (overflows : session.ceiling < session.pendingBytes + row.size)
      (fits : row.size ≤ session.ceiling)
      (flushed : FlushStep environment session state (.ok (), emptied, after)) :
      AddStep environment row session state (.ok (), emptied.countForcedFlush.buffer row, after)

theorem add_step (environment : Environment σ) (row : Row) (session : Session) (state : σ) :
    AddStep environment row session state (session.add environment row state) := by
  unfold add
  split
  · next past => exact .closed past
  · next isOpen =>
      have isOpen : session.phase = .open := Classical.not_not.mp isOpen
      split
      · next fits => exact .buffered isOpen fits
      · next overflows =>
          split
          · next large => exact .tooLarge isOpen large
          · next fits =>
              have flushStep := flush_step environment session state
              split
              · next flushed =>
                  rw [flushed] at flushStep
                  exact .stuck isOpen (by omega) (by omega) flushStep
              · next flushed =>
                  rw [flushed] at flushStep
                  exact .flushed isOpen (by omega) (by omega) flushStep

/-- Past the open phase a row is refused, and nothing else happens. -/
theorem AddStep.eq_of_closed {row : Row} {ended : Except SessionError Unit × Session × σ}
    (step : AddStep environment row session state ended) (past : session.phase ≠ .open) :
    ended = (.error (.closed session.phase), session, state) := by
  cases step with
  | closed _ => rfl
  | buffered isOpen fits => exact absurd isOpen past
  | tooLarge isOpen large => exact absurd isOpen past
  | stuck isOpen overflows fits flushed => exact absurd isOpen past
  | flushed isOpen overflows fits flushed => exact absurd isOpen past

theorem add_of_fits (environment : Environment σ) (row : Row) (session : Session) (state : σ)
    (isOpen : session.phase = .open) (fits : session.pendingBytes + row.size ≤ session.ceiling) :
    session.add environment row state = (.ok (), session.buffer row, state) := by
  rw [add, if_neg (Classical.not_not.mpr isOpen), if_pos fits]

theorem add_of_large (environment : Environment σ) (row : Row) (session : Session) (state : σ)
    (isOpen : session.phase = .open) (large : session.ceiling < row.size) :
    session.add environment row state =
      (.error (.rowTooLarge row.size session.ceiling), session, state) := by
  have overflows : ¬ session.pendingBytes + row.size ≤ session.ceiling := by omega
  rw [add, if_neg (Classical.not_not.mpr isOpen), if_neg overflows, if_pos large]

/-- A row that does not fit beside the others makes room first. -/
theorem add_of_overflow (environment : Environment σ) (row : Row) (session : Session) (state : σ)
    (isOpen : session.phase = .open)
    (overflows : session.ceiling < session.pendingBytes + row.size)
    (fits : row.size ≤ session.ceiling) :
    session.add environment row state =
      match session.flush environment state with
      | (.error error, failed, after) => (.error error, failed, after)
      | (.ok (), emptied, after) => (.ok (), emptied.countForcedFlush.buffer row, after) := by
  have overfull : ¬ session.pendingBytes + row.size ≤ session.ceiling := by omega
  have small : ¬ session.ceiling < row.size := by omega
  unfold add
  refine (if_neg (Classical.not_not.mpr isOpen)).trans ((if_neg overfull).trans ?_)
  exact if_neg small

theorem AddStep.config_eq {row : Row} {ended : Except SessionError Unit × Session × σ}
    (step : AddStep environment row session state ended) :
    ended.2.1.config = session.config := by
  cases step with
  | closed past => rfl
  | buffered isOpen fits => rfl
  | tooLarge isOpen large => rfl
  | stuck isOpen overflows fits flushed => exact flushed.config_eq
  | flushed isOpen overflows fits flushed => exact flushed.config_eq

/-! ### Committing -/

inductive CommitStep (environment : Environment σ) (session : Session) (state : σ) :
    Except SessionError Nat × Session × σ → Prop where
  | closed (past : session.phase ≠ .open) :
      CommitStep environment session state (.error (.closed session.phase), session, state)
  | unbuffered {ended : Except SessionError Nat × Session × σ} (isOpen : session.phase = .open)
      (empty : session.pending.toList = [])
      (concluded : ConcludeStep environment session state ended) :
      CommitStep environment session state ended
  | stuck {error : SessionError} {failed : Session} {after : σ} (isOpen : session.phase = .open)
      (waiting : session.pending.toList ≠ [])
      (flushed : FlushStep environment session state (.error error, failed, after)) :
      CommitStep environment session state (.error error, failed, after)
  | flushed {emptied : Session} {between : σ} {ended : Except SessionError Nat × Session × σ}
      (isOpen : session.phase = .open) (waiting : session.pending.toList ≠ [])
      (flushed : FlushStep environment session state (.ok (), emptied, between))
      (concluded : ConcludeStep environment emptied between ended) :
      CommitStep environment session state ended

theorem commit_step (environment : Environment σ) (session : Session) (state : σ) :
    CommitStep environment session state (session.commit environment state) := by
  unfold commit
  split
  · next past => exact .closed past
  · next isOpen =>
      have isOpen : session.phase = .open := Classical.not_not.mp isOpen
      split
      · next empty =>
          exact .unbuffered isOpen ((Batch.isEmpty_iff _).mp empty) (conclude_step _ _ _)
      · next waiting =>
          have waiting : session.pending.toList ≠ [] :=
            fun empty => waiting ((Batch.isEmpty_iff _).mpr empty)
          have flushStep := flush_step environment session state
          split
          · next flushed =>
              rw [flushed] at flushStep
              exact .stuck isOpen waiting flushStep
          · next flushed =>
              rw [flushed] at flushStep
              exact .flushed isOpen waiting flushStep (conclude_step _ _ _)

/-- Past the open phase a commit is refused, and nothing else happens. -/
theorem CommitStep.eq_of_closed {ended : Except SessionError Nat × Session × σ}
    (step : CommitStep environment session state ended) (past : session.phase ≠ .open) :
    ended = (.error (.closed session.phase), session, state) := by
  cases step with
  | closed _ => rfl
  | unbuffered isOpen empty concluded => exact absurd isOpen past
  | stuck isOpen waiting flushed => exact absurd isOpen past
  | flushed isOpen waiting flushed concluded => exact absurd isOpen past

theorem commit_of_unbuffered (environment : Environment σ) (session : Session) (state : σ)
    (isOpen : session.phase = .open) (empty : session.pending.toList = []) :
    session.commit environment state = session.conclude environment state := by
  rw [commit, if_neg (Classical.not_not.mpr isOpen), if_pos ((Batch.isEmpty_iff _).mpr empty)]

/-- What is buffered is sent before the stream is finalized. -/
theorem commit_of_buffered (environment : Environment σ) (session : Session) (state : σ)
    (isOpen : session.phase = .open) (waiting : session.pending.toList ≠ []) :
    session.commit environment state =
      match session.flush environment state with
      | (.error error, failed, after) => (.error error, failed, after)
      | (.ok (), emptied, after) => emptied.conclude environment after := by
  have buffered : ¬ session.pending.isEmpty = true :=
    fun empty => waiting ((Batch.isEmpty_iff _).mp empty)
  unfold commit
  refine (if_neg (Classical.not_not.mpr isOpen)).trans ?_
  exact if_neg buffered

theorem CommitStep.config_eq {ended : Except SessionError Nat × Session × σ}
    (step : CommitStep environment session state ended) :
    ended.2.1.config = session.config := by
  cases step with
  | closed past => rfl
  | unbuffered isOpen empty concluded => exact concluded.config_eq
  | stuck isOpen waiting flushed => exact flushed.config_eq
  | flushed isOpen waiting flushed concluded =>
      exact concluded.config_eq.trans flushed.config_eq

theorem CommitStep.committed_of_ok {ended : Except SessionError Nat × Session × σ}
    (step : CommitStep environment session state ended) {count : Nat}
    (answered : ended.1 = .ok count) : ended.2.1.phase = .committed := by
  cases step with
  | closed past => simp at answered
  | unbuffered isOpen empty concluded => exact concluded.committed_of_ok answered
  | stuck isOpen waiting flushed => simp at answered
  | flushed isOpen waiting flushed concluded => exact concluded.committed_of_ok answered

/-! ### Aborting -/

def giveUp (session : Session) : Session :=
  { session with
    pending := {}
    pendingBytes := 0
    pendingCount := 0
    appender := none
    stream := none
    phase := .aborted }

def discard (session : Session) : Session :=
  { session with pending := {}, pendingBytes := 0, pendingCount := 0 }

inductive AbortStep (environment : Environment σ) (session : Session) (state : σ) :
    Session × σ → Prop where
  | silent {after : σ} (nameless : session.stream = none)
      (closed : CloseStep environment session.discard state after) :
      AbortStep environment session state (session.giveUp, after)
  | reported {stream : String} {after : σ} (named : session.stream = some stream)
      (closed : CloseStep environment session.discard state after) :
      AbortStep environment session state
        (session.giveUp,
          environment.host.report (.aborted stream session.committedCount session.phase) after)

theorem abort_step (environment : Environment σ) (session : Session) (state : σ) :
    AbortStep environment session state (session.abort environment state) := by
  have closed := closeAppender_step environment session.discard state
  unfold discard at closed
  unfold abort
  simp only [closeAppender_session]
  split
  · next nameless => exact .silent nameless closed
  · next named => exact .reported named closed

theorem AbortStep.session_eq {ended : Session × σ}
    (step : AbortStep environment session state ended) : ended.1 = session.giveUp := by
  cases step with
  | silent nameless closed => rfl
  | reported named closed => rfl

end RowStream.Session
