import RowStream.Proofs.Client.Confined
import RowStream.Proofs.Session.Representation

/-!
Contract: the rows that a session accepted against the rows that the service stores.

Owns:
- `InStep`, `Complete`, `Halted` and `Account`, what the record of the session's stream is
  in each phase;
- for each operation what it makes of them in an environment that `Serves`;
- `StartStep.ok_of_quiet`, `AddStep.tooLarge_of_quiet` and, where the environment is `Steady`,
  `CommitStep.ok_of_quiet`: when an operation has to succeed.

While a session is open the service stores exactly the acknowledged rows. A failed append
leaves it in doubt whether the service has the buffer too; nothing is sent afterwards, so
that this stays the only doubt.
-/

namespace RowStream.Session

variable {σ : Type} {environment : Environment σ} {store : σ → Store} {faults : σ → Nat}
  {session : Session} {state : σ} {stream : String} {accepted : List Row}
  {record : StreamRecord}

/-- An open session whose stream holds the acknowledged rows; the buffer has the others. -/
structure InStep (stream : String) (accepted : List Row) (record : StreamRecord)
    (session : Session) : Prop where
  isOpen : session.phase = .open
  named : session.stream = some stream
  connected : session.appender = some { stream := stream }
  unfinished : record.finalized = false
  counted : record.rows.size = session.committedCount
  divided : accepted = record.rows.toList ++ session.pending.toList

/-- A session whose stream is finalized with every accepted row. -/
structure Complete (accepted : List Row) (record : StreamRecord) (session : Session) :
    Prop where
  isCommitted : session.phase = .committed
  finalized : record.finalized = true
  stored : record.rows.toList = accepted
  counted : session.committedCount = accepted.length
  emptied : session.pending.toList = []

/-- A failed session: whether the service also has the buffer is not known. -/
structure Halted (accepted : List Row) (record : StreamRecord) (session : Session) : Prop where
  hasFailed : session.phase = .failed
  divided : ∃ acknowledged, acknowledged.length = session.committedCount ∧
    accepted = acknowledged ++ session.pending.toList ∧
    (record.rows.toList = acknowledged ∨ record.rows.toList = accepted)

/-- What the record of a session's stream holds of the rows that the session accepted. -/
inductive Account (stream : String) (accepted : List Row) (record : StreamRecord)
    (session : Session) : Prop where
  | open (inStep : InStep stream accepted record session)
  | committed (complete : Complete accepted record session)
  | failed (halted : Halted accepted record session)
  | aborted (isAborted : session.phase = .aborted)
      (acknowledged : session.committedCount ≤ record.rows.size)
      (stored : record.rows.toList <+: accepted)

namespace InStep

theorem streamText_eq (inStep : InStep stream accepted record session) :
    session.streamText = stream := by
  rw [streamText, inStep.named]
  rfl

theorem nextOffset_eq (inStep : InStep stream accepted record session) :
    session.nextOffset = UInt64.ofNat record.rows.size := by
  rw [nextOffset, inStep.counted]

theorem buffer (inStep : InStep stream accepted record session) (row : Row) :
    InStep stream (accepted ++ [row]) record (session.buffer row) where
  isOpen := inStep.isOpen
  named := inStep.named
  connected := inStep.connected
  unfinished := inStep.unfinished
  counted := inStep.counted
  divided := by
    rw [inStep.divided, List.append_assoc, Session.buffer, Batch.toList_push]

theorem acknowledge (inStep : InStep stream accepted record session)
    (consistent : Consistent session) :
    InStep stream accepted (record.extend session.pending)
      session.countRequest.acknowledge where
  isOpen := inStep.isOpen
  named := inStep.named
  connected := inStep.connected
  unfinished := inStep.unfinished
  counted := by
    have counted := inStep.counted
    have sizes := consistent.count_eq
    simp only [StreamRecord.extend, Session.acknowledge, countRequest, Array.size_append,
      Batch.length] at sizes ⊢
    omega
  divided := by
    rw [inStep.divided]
    simp [StreamRecord.extend, Session.acknowledge, Batch.toList]

/-- Failing with the record as it was. -/
theorem fail (inStep : InStep stream accepted record session) :
    Halted accepted record session.fail where
  hasFailed := rfl
  divided := ⟨record.rows.toList, inStep.counted, inStep.divided, Or.inl rfl⟩

/-- Failing although the service has the buffer. -/
theorem fail_extended (inStep : InStep stream accepted record session) :
    Halted accepted (record.extend session.pending) session.fail where
  hasFailed := rfl
  divided := by
    refine ⟨record.rows.toList, inStep.counted, inStep.divided, Or.inr ?_⟩
    rw [inStep.divided]
    simp [StreamRecord.extend, Batch.toList]

/-- The buffer is not needed to tell which rows were accepted once it is empty. -/
theorem stored_eq (inStep : InStep stream accepted record session)
    (empty : session.pending.toList = []) : record.rows.toList = accepted := by
  rw [inStep.divided, empty, List.append_nil]

end InStep

/-- A failed session stays accounted for whatever else is set in it or in its record. -/
theorem Halted.of_eq {other : StreamRecord} {changed : Session}
    (halted : Halted accepted record session) (rows : other.rows = record.rows)
    (phase : changed.phase = session.phase)
    (count : changed.committedCount = session.committedCount)
    (pending : changed.pending = session.pending) : Halted accepted other changed where
  hasFailed := phase.trans halted.hasFailed
  divided := by
    rw [rows, count, pending]
    exact halted.divided

namespace Account

theorem committedCount_le (account : Account stream accepted record session) :
    session.committedCount ≤ record.rows.size := by
  cases account with
  | «open» inStep => exact Nat.le_of_eq inStep.counted.symm
  | committed complete =>
      have sizes := congrArg List.length complete.stored
      rw [complete.counted, ← sizes]
      exact Nat.le_of_eq Array.length_toList
  | failed halted =>
      obtain ⟨acknowledged, counted, divided, stored⟩ := halted.divided
      have sizes : record.rows.toList.length = record.rows.size := Array.length_toList
      rcases stored with same | whole
      · rw [same] at sizes
        omega
      · rw [whole, divided, List.length_append] at sizes
        omega
  | aborted isAborted acknowledged stored => exact acknowledged

/-- What the service stores are accepted rows, from the first one on and in their order. -/
theorem stored_prefix (account : Account stream accepted record session) :
    record.rows.toList <+: accepted := by
  cases account with
  | «open» inStep => exact ⟨session.pending.toList, inStep.divided.symm⟩
  | committed complete => exact ⟨[], (List.append_nil _).trans complete.stored⟩
  | failed halted =>
      obtain ⟨acknowledged, counted, divided, stored⟩ := halted.divided
      rcases stored with same | whole
      · rw [same]
        exact ⟨session.pending.toList, divided.symm⟩
      · exact ⟨[], (List.append_nil _).trans whole⟩
  | aborted isAborted acknowledged stored => exact stored

theorem inStep_of_open (account : Account stream accepted record session)
    (isOpen : session.phase = .open) : InStep stream accepted record session := by
  cases account with
  | «open» inStep => exact inStep
  | committed complete => simp [complete.isCommitted] at isOpen
  | failed halted => simp [halted.hasFailed] at isOpen
  | aborted isAborted acknowledged stored => simp [isAborted] at isOpen

theorem complete_of_committed (account : Account stream accepted record session)
    (isCommitted : session.phase = .committed) : Complete accepted record session := by
  cases account with
  | «open» inStep => simp [inStep.isOpen] at isCommitted
  | committed complete => exact complete
  | failed halted => simp [halted.hasFailed] at isCommitted
  | aborted isAborted acknowledged stored => simp [isAborted] at isCommitted

theorem halted_of_failed (account : Account stream accepted record session)
    (hasFailed : session.phase = .failed) : Halted accepted record session := by
  cases account with
  | «open» inStep => simp [inStep.isOpen] at hasFailed
  | committed complete => simp [complete.isCommitted] at hasFailed
  | failed halted => exact halted
  | aborted isAborted acknowledged stored => simp [isAborted] at hasFailed

end Account

/-! ### Operations -/

def InStepAt (store : σ → Store) (stream : String) (accepted : List Row) (session : Session)
    (state : σ) : Prop :=
  ∃ record, (store state).find? stream = some record ∧ InStep stream accepted record session

/-- An operation begun in one state that failed the session and ended in another. -/
structure Failure (store : σ → Store) (stream : String) (accepted : List Row) (before : σ)
    (error : SessionError) (session : Session) (after : σ) : Prop where
  halted : ∃ record, (store after).find? stream = some record ∧
    Halted accepted record session ∧ ((store before).script = {} → record.finalized = false)
  notTooLarge : ∀ size ceiling, error ≠ .rowTooLarge size ceiling
  notMiscounted : (store before).script = {} → error.rowCountMismatch? = none

theorem Failure.hasFailed {before after : σ} {error : SessionError}
    (failure : Failure store stream accepted before error session after) :
    session.phase = .failed := by
  obtain ⟨_, _, halted, _⟩ := failure.halted
  exact halted.hasFailed

theorem Failure.of_confined {before between after : σ} {error : SessionError}
    (failure : Failure store stream accepted between error session after)
    (confined : Store.ConfinedTo stream (store before) (store between)) :
    Failure store stream accepted before error session after where
  halted := by
    obtain ⟨reached, found, halted, unfinished⟩ := failure.halted
    exact ⟨reached, found, halted, fun empty => unfinished (confined.unscripted empty)⟩
  notTooLarge := failure.notTooLarge
  notMiscounted empty := failure.notMiscounted (confined.unscripted empty)

/-- A flush of a session that is in step with its record: unless it is cancelled first, the
buffer is sent to where the stream ends. -/
inductive FlushAtEnd (environment : Environment σ) (stream : String) (record : StreamRecord)
    (session : Session) (state : σ) : Except SessionError Unit × Session × σ → Prop where
  | interrupted (cancelled : environment.host.cancelled state = true) :
      FlushAtEnd environment stream record session state
        (.error (session.appendError .interrupted), session.fail,
          session.reportFailure environment .interrupted state)
  | rejected {reply : AppendReply} {cause : AppendFailure} {after : σ}
      (sent : environment.client.append { stream := stream } session.pending
        (UInt64.ofNat record.rows.size) (session.announce environment state) = (reply, after))
      (unacknowledged : reply ≠ .appended (UInt64.ofNat record.rows.size)) :
      FlushAtEnd environment stream record session state
        (.error (session.appendError cause), session.countRequest.fail,
          session.reportFailure environment cause after)
  | acknowledged {after : σ}
      (sent : environment.client.append { stream := stream } session.pending
        (UInt64.ofNat record.rows.size) (session.announce environment state) =
          (.appended (UInt64.ofNat record.rows.size), after)) :
      FlushAtEnd environment stream record session state
        (.ok (), session.countRequest.acknowledge, after)

/-- A flush claims the offset at which the stream ends. -/
theorem FlushStep.at_end (inStep : InStep stream accepted record session)
    {ended : Except SessionError Unit × Session × σ}
    (step : FlushStep environment session state ended) :
    FlushAtEnd environment stream record session state ended := by
  have connection {appender : Appender} (connected : session.appender = some appender) :
      appender = { stream := stream } :=
    Option.some.inj (connected.symm.trans inStep.connected)
  have offset := inStep.nextOffset_eq
  cases step with
  | interrupted cancelled => exact .interrupted cancelled
  | unconnected closed =>
      rw [inStep.connected] at closed
      exact absurd closed (by simp)
  | rejected going connected sent judged =>
      rw [connection connected, offset] at sent
      refine .rejected sent ?_
      intro acknowledged
      rw [offset, judgeReply_eq_ok_iff.mpr acknowledged] at judged
      exact absurd judged (by simp)
  | acknowledged going connected sent =>
      rw [connection connected, offset] at sent
      exact .acknowledged sent

/-- A flush changes no stream but its own. It leaves the session in step or failed, and then the
stream holds the buffer or does not. -/
theorem FlushStep.outcome (serves : Serves environment store faults)
    (consistent : Consistent session) (inStep : InStepAt store stream accepted session state)
    {ended : Except SessionError Unit × Session × σ}
    (step : FlushStep environment session state ended) :
    Within store faults stream state ended.2.2 ∧
      match ended.1 with
      | .ok () =>
          InStepAt store stream accepted ended.2.1 ended.2.2 ∧ Consistent ended.2.1 ∧
            ended.2.1.pending.toList = []
      | .error error => Failure store stream accepted state error ended.2.1 ended.2.2 := by
  obtain ⟨record, found, inStep⟩ := inStep
  have announced : Still store faults state (session.announce environment state) :=
    serves.report_still _ state
  have present := (announced.find? stream).trans found
  cases step.at_end inStep with
  | interrupted cancelled =>
      have reported : Still store faults state
          (session.reportFailure environment .interrupted state) := serves.report_still _ state
      refine ⟨reported.within stream, ?_, fun _ _ => by simp [appendError], fun _ => rfl⟩
      exact ⟨record, (reported.find? stream).trans found, inStep.fail, fun _ => inStep.unfinished⟩
  | @rejected reply cause after sent unacknowledged =>
      have written := serves.append_within present inStep.unfinished sent
      have reported : Still store faults after (session.reportFailure environment cause after) :=
        serves.report_still _ after
      refine ⟨((announced.within stream).trans written.1).trans (reported.within stream),
        ?_, fun _ _ => by simp [appendError], fun _ => rfl⟩
      -- The reply does not tell which: an answer can be lost after the batch was written.
      rcases written.2 with ⟨unchanged, _⟩ | extended
      · exact ⟨record, (reported.find? stream).trans unchanged,
          inStep.fail.of_eq rfl rfl rfl rfl, fun _ => inStep.unfinished⟩
      · exact ⟨record.extend session.pending, (reported.find? stream).trans extended,
          inStep.fail_extended.of_eq rfl rfl rfl rfl, fun _ => inStep.unfinished⟩
  | acknowledged sent =>
      have written := serves.append_within present inStep.unfinished sent
      refine ⟨(announced.within stream).trans written.1, ?_, consistent.acknowledge, rfl⟩
      rcases written.2 with ⟨_, unacknowledged⟩ | extended
      · exact absurd rfl (unacknowledged _)
      · exact ⟨record.extend session.pending, extended, inStep.acknowledge consistent⟩

theorem AddStep.outcome (serves : Serves environment store faults)
    (consistent : Consistent session) (inStep : InStepAt store stream accepted session state)
    {row : Row} {ended : Except SessionError Unit × Session × σ}
    (step : AddStep environment row session state ended) :
    Within store faults stream state ended.2.2 ∧
      match ended.1 with
      | .ok () => InStepAt store stream (accepted ++ [row]) ended.2.1 ended.2.2
      | .error error =>
          (session.ceiling < row.size ∧ error = .rowTooLarge row.size session.ceiling ∧
              ended.2 = (session, state)) ∨
            Failure store stream accepted state error ended.2.1 ended.2.2 := by
  have still : Within store faults stream state state := (Still.refl state).within stream
  cases step with
  | closed past =>
      obtain ⟨_, _, inStep⟩ := inStep
      exact absurd inStep.isOpen past
  | buffered isOpen fits =>
      obtain ⟨record, found, inStep⟩ := inStep
      exact ⟨still, record, found, inStep.buffer row⟩
  | tooLarge isOpen large => exact ⟨still, Or.inl ⟨large, rfl, rfl⟩⟩
  | stuck isOpen overflows fits flushed =>
      have sent := flushed.outcome serves consistent inStep
      exact ⟨sent.1, Or.inr sent.2⟩
  | flushed isOpen overflows fits flushed =>
      obtain ⟨within, ⟨record, found, emptied⟩, _⟩ := flushed.outcome serves consistent inStep
      refine ⟨within, record, found, ?_⟩
      have buffered := emptied.buffer row
      exact ⟨buffered.isOpen, buffered.named, buffered.connected, buffered.unfinished,
        buffered.counted, buffered.divided⟩

theorem CloseStep.still (serves : Serves environment store faults) {after : σ}
    (step : CloseStep environment session state after) : Still store faults state after := by
  cases step with
  | absent closed => exact .refl state
  | quiet connected called => exact serves.close_still called
  | reported connected called =>
      exact (serves.close_still called).trans (serves.report_still _ _)

theorem closing_still (serves : Serves environment store faults) (session : Session)
    (event : Event) (state : σ) :
    Still store faults state (environment.host.report event (session.closing environment state)) :=
  ((closeAppender_step environment _ state).still serves).trans (serves.report_still event _)

/-- The pause and the attempts to finalize, from a session that is in step. -/
theorem finalizing_outcome (serves : Serves environment store faults)
    (found : (store state).find? stream = some record)
    (inStep : InStep stream accepted record session) :
    (∀ retried, (session.finalizing environment state).outcome = .ok retried →
      Within store faults stream state (session.finalizing environment state).state ∧
        (store (session.finalizing environment state).state).find? stream =
          some { record with finalized := true } ∧
        ((store state).script = {} → retried.value = session.committedCount)) ∧
      (∀ error, (session.finalizing environment state).outcome = .error error →
        Still store faults state (session.finalizing environment state).state ∧
          (environment.host.cancelled (session.pause environment state) = false →
            (store state).script = {} →
              faults state < faults (session.finalizing environment state).state)) := by
  have paused : Still store faults state (session.pause environment state) :=
    serves.sleep_still _ state
  have attempts := serves.finalize_run session.config.retry session.config.retryableCodes
    "finalize_write_stream" session.random ((paused.find? stream).trans found)
  unfold finalizing
  rw [inStep.streamText_eq]
  constructor
  · intro retried answered
    obtain ⟨within, finalized, counted⟩ := attempts.1 retried answered
    refine ⟨(paused.within stream).trans within, finalized, ?_⟩
    intro unscripted
    exact (counted (paused.records.unscripted unscripted)).trans inStep.counted
  · intro error gaveUp
    obtain ⟨still, struck⟩ := attempts.2 error gaveUp
    refine ⟨paused.trans still, ?_⟩
    intro going unscripted
    exact Nat.lt_of_le_of_lt paused.faults_le
      (struck going (paused.records.unscripted unscripted))

theorem ConcludeStep.outcome (serves : Serves environment store faults)
    (inStep : InStepAt store stream accepted session state)
    (empty : session.pending.toList = []) {ended : Except SessionError Nat × Session × σ}
    (step : ConcludeStep environment session state ended) :
    Within store faults stream state ended.2.2 ∧
      match ended.1 with
      | .ok count =>
          count = accepted.length ∧
            ∃ record, (store ended.2.2).find? stream = some record ∧
              Complete accepted record ended.2.1
      | .error error => Failure store stream accepted state error ended.2.1 ended.2.2 := by
  obtain ⟨record, found, inStep⟩ := inStep
  have attempts := finalizing_outcome serves found inStep
  have sizes : session.committedCount = accepted.length := by
    rw [← inStep.stored_eq empty, Array.length_toList, inStep.counted]
  cases step with
  | interrupted cancelled =>
      have reported : Still store faults state
          (environment.host.report (.finalizeInterrupted session.streamText)
            (session.pause environment state)) :=
        (serves.sleep_still _ state).trans (serves.report_still _ _)
      refine ⟨reported.within stream, ?_, fun _ _ => by simp, fun _ => rfl⟩
      exact ⟨record, (reported.find? stream).trans found, inStep.fail, fun _ => inStep.unfinished⟩
  | @refused error going gaveUp =>
      have reported := (attempts.2 error gaveUp).1.trans
        (serves.report_still (.finalizeFailed session.streamText error) _)
      refine ⟨reported.within stream, ?_, fun _ _ => by simp, fun _ => rfl⟩
      exact ⟨record, (reported.find? stream).trans found, inStep.fail.of_eq rfl rfl rfl rfl,
        fun _ => inStep.unfinished⟩
  | @miscounted retried going answered differs =>
      obtain ⟨within, finalized, counted⟩ := attempts.1 retried answered
      have scripted : (store state).script ≠ {} := fun unscripted => differs (counted unscripted)
      have reported := serves.report_still
        (.rowCountMismatch session.streamText session.committedCount retried.value)
        (session.finalizing environment state).state
      refine ⟨within.trans (reported.within stream), ?_, fun _ _ => by simp,
        fun unscripted => absurd unscripted scripted⟩
      exact ⟨{ record with finalized := true }, (reported.find? stream).trans finalized,
        inStep.fail.of_eq rfl rfl rfl rfl, fun unscripted => absurd unscripted scripted⟩
  | @finalized retried going answered agrees =>
      obtain ⟨within, finalized, _⟩ := attempts.1 retried answered
      have ended := closing_still serves
        (session.countFinalize retried.attempts (session.finalizing environment state).random)
        (.finalized session.streamText retried.value) (session.finalizing environment state).state
      refine ⟨within.trans (ended.within stream), agrees.trans sizes,
        { record with finalized := true }, (ended.find? stream).trans finalized, ?_⟩
      exact
        { isCommitted := rfl
          finalized := rfl
          stored := inStep.stored_eq empty
          counted := sizes
          emptied := empty }

theorem CommitStep.outcome (serves : Serves environment store faults)
    (consistent : Consistent session) (inStep : InStepAt store stream accepted session state)
    {ended : Except SessionError Nat × Session × σ}
    (step : CommitStep environment session state ended) :
    Within store faults stream state ended.2.2 ∧
      match ended.1 with
      | .ok count =>
          count = accepted.length ∧
            ∃ record, (store ended.2.2).find? stream = some record ∧
              Complete accepted record ended.2.1
      | .error error => Failure store stream accepted state error ended.2.1 ended.2.2 := by
  cases step with
  | closed past =>
      obtain ⟨_, _, inStep⟩ := inStep
      exact absurd inStep.isOpen past
  | unbuffered isOpen empty concluded => exact concluded.outcome serves inStep empty
  | stuck isOpen waiting flushed => exact flushed.outcome serves consistent inStep
  | @flushed emptied between ended isOpen waiting flushed concluded =>
      obtain ⟨within, inStep, _, empty⟩ := flushed.outcome serves consistent inStep
      obtain ⟨later, settled⟩ := concluded.outcome serves inStep empty
      refine ⟨within.trans later, ?_⟩
      cases result : ended.1 with
      | ok count =>
          rw [result] at settled
          exact settled
      | error error =>
          rw [result] at settled
          exact settled.of_confined within.confined

theorem AbortStep.outcome (serves : Serves environment store faults)
    (found : (store state).find? stream = some record)
    (account : Account stream accepted record session) {ended : Session × σ}
    (step : AbortStep environment session state ended) :
    Still store faults state ended.2 ∧
      (store ended.2).find? stream = some record ∧
        Account stream accepted record ended.1 ∧ Consistent ended.1 := by
  have closing : Still store faults state ended.2 := by
    cases step with
    | silent nameless closed => exact closed.still serves
    | reported named closed => exact (closed.still serves).trans (serves.report_still _ _)
  refine ⟨closing, (closing.find? stream).trans found, ?_⟩
  rw [step.session_eq]
  exact ⟨.aborted rfl account.committedCount_le account.stored_prefix, .giveUp session⟩

/-- A session just opened is in step with its new stream. Unless the configuration has a
flaw or a fault is scripted, opening can only fail before a stream is created. -/
theorem StartStep.outcome (serves : Serves environment store faults) {table : String}
    {schema : Schema} {config : Config} {random : Random} {ended : Except SessionError Session × σ}
    (step : StartStep environment table schema config random state ended) :
    match ended.1 with
    | .ok session =>
        Within store faults session.streamText state ended.2 ∧
          InStepAt store session.streamText [] session ended.2 ∧ Consistent session
    | .error error =>
        config.validate = .ok () → (store state).script = {} →
          Still store faults state ended.2 ∧ ∃ cause, error = .streamCreation table cause := by
  have attempts := serves.create_run config.retry config.retryableCodes "create_write_stream"
    table .pending random state
  cases step with
  | invalid flawed => exact fun valid => by simp [valid] at flawed
  | @notCreated error valid gaveUp =>
      have still : Still store faults state
          (creating environment table config random state).state := (attempts.2 error gaveUp).1
      exact fun _ _ => ⟨still.trans (serves.report_still _ _), error, rfl⟩
  | @notBound created error after valid answered bound =>
      intro _ unscripted
      obtain ⟨opened, _⟩ := attempts.1 created answered
      obtain ⟨_, _, connects⟩ := serves.bind_still bound
      obtain ⟨appender, impossible⟩ := connects (opened.confined.unscripted unscripted)
      exact absurd impossible (by simp)
  | @opened created appender after valid answered bound =>
      obtain ⟨opened, found⟩ := attempts.1 created answered
      obtain ⟨still, connects, _⟩ := serves.bind_still bound
      have connected := still.trans
        (serves.report_still (.streamCreated created.value.name table created.attempts) after)
      refine ⟨opened.trans (connected.within _), ?_, .fresh _ _ _ _ _ _⟩
      refine ⟨{ kind := .pending }, (connected.find? _).trans found, ?_⟩
      exact
        { isOpen := rfl
          named := rfl
          connected := congrArg some (connects appender rfl)
          unfinished := rfl
          counted := rfl
          divided := rfl }

/-! ### When an operation has to succeed -/

/-- With nothing scripted and nothing cancelled, a session that no fault strikes opens. -/
theorem StartStep.ok_of_quiet (serves : Serves environment store faults) {table : String}
    {schema : Schema} {config : Config} {random : Random} {ended : Except SessionError Session × σ}
    (step : StartStep environment table schema config random state ended)
    (valid : config.validate = .ok ()) (unscripted : (store state).script = {})
    (going : environment.host.cancelled state = false)
    (quiet : faults ended.2 = faults state) : ∃ session, ended.1 = .ok session := by
  have attempts := serves.create_run config.retry config.retryableCodes "create_write_stream"
    table .pending random state
  cases step with
  | invalid flawed => simp [valid] at flawed
  | @notCreated error _ gaveUp =>
      have struck := (attempts.2 error gaveUp).2 going unscripted
      have reported := (serves.report (.streamNotCreated table error)
        (creating environment table config random state).state).2
      simp only [creating] at quiet reported
      omega
  | @notBound created error after _ answered bound =>
      obtain ⟨opened, _⟩ := attempts.1 created answered
      obtain ⟨_, _, connects⟩ := serves.bind_still bound
      obtain ⟨appender, impossible⟩ := connects (opened.confined.unscripted unscripted)
      exact absurd impossible (by simp)
  | opened _ answered bound => exact ⟨_, rfl⟩

/-- Without faults, script and cancellation a flush succeeds. -/
theorem FlushStep.ok_of_quiet (serves : Serves environment store faults)
    (inStep : InStepAt store stream accepted session state)
    {ended : Except SessionError Unit × Session × σ}
    (step : FlushStep environment session state ended) (unscripted : (store state).script = {})
    (going : environment.host.cancelled state = false)
    (quiet : faults ended.2.2 = faults state) : ended.1 = .ok () := by
  obtain ⟨record, found, inStep⟩ := inStep
  have announced : Still store faults state (session.announce environment state) :=
    serves.report_still _ state
  cases step.at_end inStep with
  | interrupted cancelled => simp [going] at cancelled
  | @rejected reply cause after sent unacknowledged =>
      have announcedQuiet : faults (session.announce environment state) = faults state :=
        (serves.report _ state).2
      have reportedQuiet : faults (session.reportFailure environment cause after) = faults after :=
        (serves.report _ after).2
      have silent : faults after = faults (session.announce environment state) := by
        simp only at quiet
        omega
      exact absurd (serves.append_of_quiet ((announced.find? stream).trans found)
        inStep.unfinished (announced.records.unscripted unscripted) sent silent) unacknowledged
  | acknowledged sent => rfl

/-- With nothing scripted and nothing cancelled, an open session that no fault strikes refuses a
row only for its size. -/
theorem AddStep.tooLarge_of_quiet (serves : Serves environment store faults)
    (inStep : InStepAt store stream accepted session state) {row : Row}
    {ended : Except SessionError Unit × Session × σ}
    (step : AddStep environment row session state ended) {error : SessionError}
    (refused : ended.1 = .error error) (unscripted : (store state).script = {})
    (going : environment.host.cancelled state = false)
    (quiet : faults ended.2.2 = faults state) :
    error = .rowTooLarge row.size session.ceiling := by
  cases step with
  | closed past =>
      obtain ⟨_, _, inStep⟩ := inStep
      exact absurd inStep.isOpen past
  | buffered isOpen fits => exact absurd refused (by simp)
  | tooLarge isOpen large => exact (Except.error.inj refused).symm
  | stuck isOpen overflows fits flushed =>
      exact absurd (flushed.ok_of_quiet serves inStep unscripted going quiet) (by simp)
  | flushed isOpen overflows fits flushed => exact absurd refused (by simp)

/-- Only a row that fits into a request is accepted. -/
theorem AddStep.fits_of_ok {row : Row} {ended : Except SessionError Unit × Session × σ}
    (step : AddStep environment row session state ended) (accepted : ended.1 = .ok ()) :
    row.size ≤ session.ceiling := by
  cases step with
  | closed past => exact absurd accepted (by simp)
  | buffered isOpen fits => omega
  | tooLarge isOpen large => exact absurd accepted (by simp)
  | stuck isOpen overflows fits flushed => exact absurd accepted (by simp)
  | flushed isOpen overflows fits flushed => omega

theorem ConcludeStep.ok_of_quiet (serves : Serves environment store faults)
    (inStep : InStepAt store stream accepted session state)
    {ended : Except SessionError Nat × Session × σ}
    (step : ConcludeStep environment session state ended)
    (unscripted : (store state).script = {})
    (going : environment.host.cancelled (session.pause environment state) = false)
    (quiet : faults ended.2.2 = faults state) : ∃ count, ended.1 = .ok count := by
  obtain ⟨record, found, inStep⟩ := inStep
  have attempts := finalizing_outcome serves found inStep
  cases step with
  | interrupted cancelled => simp [going] at cancelled
  | @refused error going gaveUp =>
      have struck := (attempts.2 error gaveUp).2 going unscripted
      have reported := (serves.report (.finalizeFailed session.streamText error)
        (session.finalizing environment state).state).2
      simp only at quiet
      omega
  | @miscounted retried going answered differs =>
      exact absurd ((attempts.1 retried answered).2.2 unscripted) differs
  | finalized going answered agrees => exact ⟨_, rfl⟩

/-- With nothing scripted and nothing cancelled, an open session that no fault strikes
commits. -/
theorem CommitStep.ok_of_quiet (serves : Serves environment store faults)
    (steady : Steady environment) (consistent : Consistent session)
    (inStep : InStepAt store stream accepted session state)
    {ended : Except SessionError Nat × Session × σ}
    (step : CommitStep environment session state ended) (unscripted : (store state).script = {})
    (going : environment.host.cancelled state = false)
    (quiet : faults ended.2.2 = faults state) : ∃ count, ended.1 = .ok count := by
  cases step with
  | closed past =>
      obtain ⟨_, _, inStep⟩ := inStep
      exact absurd inStep.isOpen past
  | unbuffered isOpen empty concluded =>
      exact concluded.ok_of_quiet serves inStep unscripted ((steady.sleep _ state).trans going)
        quiet
  | @stuck error failed after isOpen waiting flushed =>
      have sent := flushed.ok_of_quiet serves inStep unscripted going quiet
      exact absurd sent (by simp)
  | @flushed emptied between ended isOpen waiting flushed concluded =>
      obtain ⟨within, settled, _, empty⟩ := flushed.outcome serves consistent inStep
      obtain ⟨later, _⟩ := concluded.outcome serves settled empty
      have goingBetween : environment.host.cancelled between = false := by
        cases flushed with
        | @acknowledged appender after going connected sent =>
            have answered := steady.append appender session.pending session.nextOffset
              (session.announce environment state)
            rw [sent] at answered
            exact (answered.trans (steady.report _ state)).trans going
      have quietLater : faults ended.2.2 = faults between := by
        have first := within.faults_le
        have second := later.faults_le
        simp only at first second
        omega
      exact concluded.ok_of_quiet serves settled (within.confined.unscripted unscripted)
        ((steady.sleep _ between).trans goingBetween) quietLater

end RowStream.Session
