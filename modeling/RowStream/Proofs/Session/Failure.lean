import RowStream.Proofs.Session.Coherence
import RowStream.Proofs.Session.ExactlyOnce

/-!
Contract: an operation that fails changes no more than its failure forces.

Owns:
- `Session.spoil` and `Session.Unfinalized`, what a failed append and a failed finalization
  leave of a session;
- `Session.ComesTo`, the session with which a commit comes to finalizing;
- `Course.add_of_large`, a row that is too large leaves no trace in a course.

Main statement: `Course.failures_confined`.
-/

namespace RowStream

variable {σ : Type} {environment : Environment σ}

namespace Session

variable {session flushed : Session} {state : σ} {stream : String} {offset : UInt64}

theorem FlushStep.error_eq {ended : Except SessionError Unit × Session × σ}
    (step : FlushStep environment session state ended) {error : SessionError}
    (answered : ended.1 = .error error) :
    (∃ cause, error = session.appendError cause) ∨ error = .closed session.phase := by
  cases step with
  | interrupted cancelled => exact Or.inl ⟨_, (Except.error.inj answered).symm⟩
  | unconnected closed => exact Or.inr (Except.error.inj answered).symm
  | rejected going connected sent judged => exact Or.inl ⟨_, (Except.error.inj answered).symm⟩
  | acknowledged going connected sent => simp at answered

/-! ### Rows that are too large -/

/-- Whatever is buffered, and cancelled or not. -/
theorem AddStep.tooLarge_iff {row : Row} {ended : Except SessionError Unit × Session × σ}
    (step : AddStep environment row session state ended) (isOpen : session.phase = .open) :
    (∃ size limit, ended.1 = .error (.rowTooLarge size limit)) ↔ session.ceiling < row.size := by
  cases step with
  | closed past => exact absurd isOpen past
  | buffered _ fits =>
      have small : ¬ session.ceiling < row.size := by omega
      simp [small]
  | tooLarge _ large => simp [large]
  | stuck _ overflows fits flushed =>
      have small : ¬ session.ceiling < row.size := by omega
      have other := flushed.error_eq rfl
      simp only [small, iff_false, not_exists]
      intro size limit answered
      rw [Except.error.inj answered] at other
      simp [appendError] at other
  | flushed _ overflows fits flushed =>
      have small : ¬ session.ceiling < row.size := by omega
      simp [small]

/-! ### Failed appends -/

/-- The session after an append that failed: only its phase and the count of its requests are
not what they were. -/
def spoil (sent : Nat) (session : Session) : Session :=
  { session with
    phase := .failed
    stats := { session.stats with appendRequests := session.stats.appendRequests + sent } }

/-- A failed append changes the phase and the count of requests, and nothing else. -/
theorem FlushStep.spoiled {ended : Except SessionError Unit × Session × σ}
    (step : FlushStep environment session state ended) {cause : AppendFailure}
    (answered : ended.1 = .error (.appendFailed stream offset cause)) :
    ∃ sent ≤ 1, ended.2.1 = session.spoil sent := by
  cases step with
  | interrupted cancelled => exact ⟨0, by omega, rfl⟩
  | unconnected closed => simp at answered
  | rejected going connected sent judged => exact ⟨1, by omega, rfl⟩
  | acknowledged going connected sent => simp at answered

theorem AddStep.spoiled {row : Row} {ended : Except SessionError Unit × Session × σ}
    (step : AddStep environment row session state ended) {cause : AppendFailure}
    (answered : ended.1 = .error (.appendFailed stream offset cause)) :
    ∃ sent ≤ 1, ended.2.1 = session.spoil sent := by
  cases step with
  | closed past => simp at answered
  | buffered isOpen fits => simp at answered
  | tooLarge isOpen large => simp at answered
  | stuck isOpen overflows fits flushed => exact flushed.spoiled answered
  | flushed isOpen overflows fits flushed => simp at answered

/-- Once the buffer is sent, no append is left to fail. -/
theorem ConcludeStep.answer_ne_appendFailed {ended : Except SessionError Nat × Session × σ}
    (step : ConcludeStep environment session state ended) (cause : AppendFailure) :
    ended.1 ≠ .error (.appendFailed stream offset cause) := by
  cases step with
  | interrupted cancelled => simp
  | refused going gaveUp => simp
  | miscounted going answered differs => simp
  | finalized going answered agrees => simp

theorem CommitStep.spoiled {ended : Except SessionError Nat × Session × σ}
    (step : CommitStep environment session state ended) {cause : AppendFailure}
    (answered : ended.1 = .error (.appendFailed stream offset cause)) :
    ∃ sent ≤ 1, ended.2.1 = session.spoil sent := by
  cases step with
  | closed past => simp at answered
  | unbuffered isOpen empty concluded =>
      exact absurd answered (concluded.answer_ne_appendFailed cause)
  | stuck isOpen waiting flushed =>
      exact flushed.spoiled (congrArg Except.error (Except.error.inj answered))
  | flushed isOpen waiting flushed concluded =>
      exact absurd answered (concluded.answer_ne_appendFailed cause)

/-! ### Failed finalizations -/

/-- The session after a finalization that failed, told by the session that came to it: nothing
is counted anew but the attempts of a finalization that was answered, with another number of
rows. -/
structure Unfinalized (before : Session) (cause : FinalizeFailure) (after : Session) : Prop where
  same : after =
    { before with
      phase := .failed
      random := after.random
      stats := { before.stats with finalizeAttempts := after.stats.finalizeAttempts } }
  uncounted : (∀ expected actual, cause ≠ .rowCountMismatch expected actual) →
    after.stats = before.stats

theorem ConcludeStep.unfinalized {ended : Except SessionError Nat × Session × σ}
    (step : ConcludeStep environment session state ended) {cause : FinalizeFailure}
    (answered : ended.1 = .error (.finalization stream cause)) :
    session.Unfinalized cause ended.2.1 := by
  cases step with
  | interrupted cancelled => exact ⟨rfl, fun _ => rfl⟩
  | refused going gaveUp => exact ⟨rfl, fun _ => rfl⟩
  | miscounted going reached differs =>
      refine ⟨rfl, fun otherwise => ?_⟩
      simp only [Except.error.injEq, SessionError.finalization.injEq] at answered
      exact absurd answered.2.symm (otherwise _ _)
  | finalized going reached agrees => simp at answered

/-- The session with which a commit comes to finalizing: as it is if nothing is buffered, and
otherwise as a flush that succeeds leaves it. -/
def ComesTo (environment : Environment σ) (session : Session) (state : σ) (flushed : Session) :
    Prop :=
  session.pending.toList = [] ∧ flushed = session ∨
    session.pending.toList ≠ [] ∧
      ∃ after, session.flush environment state = (.ok (), flushed, after)

/-- A commit that fails to finalize has sent its buffer before. -/
theorem commit_unfinalized (environment : Environment σ) (session : Session) (state : σ)
    (isOpen : session.phase = .open) {cause : FinalizeFailure}
    (answered : (session.commit environment state).1 = .error (.finalization stream cause)) :
    ∃ flushed, session.ComesTo environment state flushed ∧
      flushed.Unfinalized cause (session.commit environment state).2.1 := by
  by_cases empty : session.pending.toList = []
  · rw [commit_of_unbuffered environment session state isOpen empty] at answered ⊢
    exact ⟨session, Or.inl ⟨empty, rfl⟩,
      (conclude_step environment session state).unfinalized answered⟩
  · have flushStep := flush_step environment session state
    rw [commit_of_buffered environment session state isOpen empty] at answered ⊢
    cases flushing : session.flush environment state with
    | mk result rest =>
      rw [flushing] at answered flushStep
      cases result with
      | error error =>
          have other := flushStep.error_eq rfl
          rw [Except.error.inj answered] at other
          simp [appendError] at other
      | ok done =>
          exact ⟨rest.1, Or.inr ⟨empty, rest.2, flushing⟩,
            (conclude_step environment rest.1 rest.2).unfinalized answered⟩

/-- Sending the buffer moves its rows from the pending to the committed ones. -/
theorem ComesTo.totals (comes : session.ComesTo environment state flushed)
    (consistent : session.Consistent) :
    flushed.pending.toList = [] ∧ flushed.pendingBytes = 0 ∧ flushed.pendingCount = 0 ∧
      flushed.committedCount = session.committedCount + session.pendingCount ∧
      flushed.stats.rowsAppended = session.stats.rowsAppended + session.pendingCount ∧
      flushed.stats.bytesAppended = session.stats.bytesAppended + session.pendingBytes ∧
      flushed.stats.flushesForced = session.stats.flushesForced := by
  rcases comes with ⟨empty, rfl⟩ | ⟨_, after, flushing⟩
  · obtain ⟨count, bytes⟩ := consistent.totals_of_emptied empty
    simp [empty, count, bytes]
  · have step := flush_step environment session state
    rw [flushing] at step
    cases step with
    | acknowledged going connected sent => exact ⟨rfl, rfl, rfl, rfl, rfl, rfl, rfl⟩

/-- Nothing is buffered any more, and what was is acknowledged. -/
theorem Unfinalized.totals {cause : FinalizeFailure} {left : Session}
    (unfinalized : flushed.Unfinalized cause left)
    (comes : session.ComesTo environment state flushed) (consistent : session.Consistent) :
    left.pending.toList = [] ∧ left.pendingBytes = 0 ∧ left.pendingCount = 0 ∧
      left.committedCount = session.committedCount + session.pendingCount ∧
      left.stats.rowsAppended = session.stats.rowsAppended + session.pendingCount ∧
      left.stats.bytesAppended = session.stats.bytesAppended + session.pendingBytes ∧
      left.stats.flushesForced = session.stats.flushesForced := by
  rw [unfinalized.same]
  exact comes.totals consistent

end Session

/-! ### Whole courses -/

namespace Course

variable {course : Course σ}

theorem add_of_large (environment : Environment σ) {row : Row}
    (isOpen : course.session.phase = .open) (large : course.session.ceiling < row.size) :
    course.add environment row =
      (.error (.rowTooLarge row.size course.session.ceiling), course) := by
  rw [add, Session.add_of_large environment.recorded row course.session _ isOpen large]
  rfl

theorem accepted_of_error {row : Row} {error : SessionError}
    (answered : (course.add environment row).1 = .error error) :
    (course.add environment row).2.accepted = course.accepted := by
  show accept row course.accepted (course.add environment row).1 = course.accepted
  rw [answered]
  rfl

/-- What is left out of a course without a trace can be left out before anything else. -/
theorem run_skip {moves later : List (Move σ)} {move : Move σ}
    (nothing : (course.run environment moves).perform environment move =
      course.run environment moves) :
    course.run environment (moves ++ move :: later) = course.run environment (moves ++ later) := by
  simp only [run, List.foldl_append, List.foldl_cons] at nothing ⊢
  rw [nothing]

/-- In whatever order things happened before, and whatever the client answers: an open session
refuses a row as too large exactly if the row does not fit into a request by itself, and then
nothing tells that it was offered. A failed append changes the phase and the number of requests
and nothing else. A failed finalization finds the buffer sent and leaves what the flush left. -/
theorem failures_confined {table : String} {schema : Schema} {config : Config} {random : Random}
    {state : σ} (started : start environment table schema config random state = .ok course)
    (moves : List (Move σ)) (isOpen : (course.run environment moves).session.phase = .open) :
    let reached := course.run environment moves
    let session := reached.session
    let adding := fun row => reached.add environment row
    let committing := reached.commit environment
    let left := committing.2.session
    (∀ row : Row, config.ceiling + row.size < UInt64.size →
      (UInt64.ofNat session.pendingBytes + UInt64.ofNat row.size).toNat =
          session.pendingBytes + row.size ∧
        ((∃ size limit, (adding row).1 = .error (.rowTooLarge size limit)) ↔
          config.ceiling < row.size) ∧
        (config.ceiling < row.size →
          adding row = (.error (.rowTooLarge row.size config.ceiling), reached) ∧
            ∀ later, course.run environment (moves ++ .add row :: later) =
              course.run environment (moves ++ later))) ∧
      (∀ row stream offset cause, (adding row).1 = .error (.appendFailed stream offset cause) →
        (adding row).2.accepted = reached.accepted ∧
          ∃ sent ≤ 1, (adding row).2.session =
            { session with
              phase := .failed
              stats :=
                { session.stats with
                  appendRequests := session.stats.appendRequests + sent } }) ∧
      (∀ stream offset cause, committing.1 = .error (.appendFailed stream offset cause) →
        ∃ sent ≤ 1, left =
          { session with
            phase := .failed
            stats :=
              { session.stats with
                appendRequests := session.stats.appendRequests + sent } }) ∧
      (∀ stream cause, committing.1 = .error (.finalization stream cause) →
        ∃ flushed,
          session.ComesTo environment.recorded (reached.requests, reached.state) flushed ∧
            flushed.Unfinalized cause left ∧
            left.pending.toList = [] ∧ left.pendingBytes = 0 ∧ left.pendingCount = 0 ∧
            left.committedCount = session.committedCount + session.pendingCount ∧
            left.stats.rowsAppended = session.stats.rowsAppended + session.pendingCount ∧
            left.stats.bytesAppended = session.stats.bytesAppended + session.pendingBytes ∧
            left.stats.flushesForced = session.stats.flushesForced) := by
  intro reached session adding committing left
  have consistent : session.Consistent := consistent_run started moves
  have settings : session.ceiling = config.ceiling := ceiling_run started moves
  have addStep := fun row => Session.add_step environment.recorded row session
    (reached.requests, reached.state)
  have commitStep := Session.commit_step environment.recorded session
    (reached.requests, reached.state)
  refine ⟨?_, ?_, ?_, ?_⟩
  · intro row bounded
    rw [← settings] at bounded ⊢
    refine ⟨consistent.toNat_add bounded, (addStep row).tooLarge_iff isOpen, ?_⟩
    intro large
    have refused : adding row = (.error (.rowTooLarge row.size session.ceiling), reached) :=
      add_of_large environment isOpen large
    exact ⟨refused, fun later => run_skip (congrArg Prod.snd refused)⟩
  · intro row stream offset cause answered
    exact ⟨accepted_of_error answered, (addStep row).spoiled answered⟩
  · intro stream offset cause answered
    exact commitStep.spoiled answered
  · intro stream cause answered
    obtain ⟨flushed, comes, unfinalized⟩ :=
      Session.commit_unfinalized environment.recorded session (reached.requests, reached.state)
        isOpen answered
    exact ⟨flushed, comes, unfinalized, unfinalized.totals comes consistent⟩

/-- With a row buffered, one is offered that is too large for any request, and one for which the
buffer has to be sent: the append is acknowledged at another offset. Or the row is committed, and
the service counts seven. -/
theorem failures_confined_of_skew_and_override :
    ∃ course skewed overridden,
      skewed = [.add (filledRow 3 1), .order (.skewAck 1)] ∧
        overridden = [.add (filledRow 3 1), .order (.overrideRowCount 7)] ∧
        let environment := Environment.simulated false none
        let stream := course.session.streamText
        let refused := (course.run environment skewed).add environment (filledRow 5 2)
        let failed := (course.run environment skewed).add environment (filledRow 2 3)
        let committed := (course.run environment overridden).commit environment
        start environment "table" ⟨"Row", .empty⟩ (Config.withCeiling 4) (.seeded 0)
            { backend := ({ rates := FaultRates.none, random := .seeded 0 }, {}) } = .ok course ∧
          refused = (.error (.rowTooLarge 5 4), course.run environment skewed) ∧
          failed.1 = .error (.appendFailed stream 0 (.offsetMismatch 0 1)) ∧
          failed.2.accepted.length = 1 ∧ failed.2.session.pending.length = 1 ∧
          failed.2.session.phase = .failed ∧ failed.2.session.stats.appendRequests ≤ 1 ∧
          committed.1 = .error (.finalization stream (.rowCountMismatch 1 7)) ∧
          committed.2.session.pending.toList = [] ∧ committed.2.session.committedCount = 1 ∧
          committed.2.session.stats.bytesAppended = 3 := by
  have ran : ∃ course skewed overridden,
      skewed = [.add (filledRow 3 1), .order (.skewAck 1)] ∧
        overridden = [.add (filledRow 3 1), .order (.overrideRowCount 7)] ∧
        let environment := Environment.simulated false none
        let stream := course.session.streamText
        let failed := (course.run environment skewed).add environment (filledRow 2 3)
        let committed := (course.run environment overridden).commit environment
        start environment "table" ⟨"Row", .empty⟩ (Config.withCeiling 4) (.seeded 0)
            { backend := ({ rates := FaultRates.none, random := .seeded 0 }, {}) } = .ok course ∧
          (course.run environment skewed).session.phase = .open ∧
          (course.run environment skewed).accepted.length = 1 ∧
          (course.run environment skewed).session.pending.length = 1 ∧
          (course.run environment skewed).session.stats.appendRequests = 0 ∧
          failed.1 = .error (.appendFailed stream 0 (.offsetMismatch 0 1)) ∧
          (course.run environment overridden).session.phase = .open ∧
          (course.run environment overridden).session.committedCount = 0 ∧
          (course.run environment overridden).session.pendingCount = 1 ∧
          (course.run environment overridden).session.pendingBytes = 3 ∧
          (course.run environment overridden).session.stats.bytesAppended = 0 ∧
          committed.1 = .error (.finalization stream (.rowCountMismatch 1 7)) := by
    refine ⟨_, _, _, rfl, rfl, rfl, rfl, rfl, rfl, rfl, rfl, rfl, rfl, rfl, rfl, rfl, rfl⟩
  obtain ⟨course, skewed, overridden, skewing, overriding, started, isOpen, rows, buffered, asked,
    failing, isOpenToo, acknowledged, waiting, bytes, sent, mismatch⟩ := ran
  obtain ⟨large, append, _, _⟩ := failures_confined started skewed isOpen
  obtain ⟨_, _, _, finalize⟩ := failures_confined started overridden isOpenToo
  obtain ⟨_, _, refused⟩ := large (filledRow 5 2) (by decide)
  obtain ⟨kept, count, few, left⟩ := append (filledRow 2 3) _ _ _ failing
  obtain ⟨_, _, _, empty, _, _, counted, _, carried, _⟩ := finalize _ _ mismatch
  refine ⟨course, skewed, overridden, skewing, overriding, started, (refused (by decide)).1,
    failing, ?_, ?_, ?_, ?_, mismatch, empty, ?_, ?_⟩
  · rw [kept, rows]
  · rw [left]
    exact buffered
  · rw [left]
  · rw [left]
    simp only [asked]
    omega
  · rw [counted, acknowledged, waiting]
  · rw [carried, sent, bytes]

end Course

end RowStream
