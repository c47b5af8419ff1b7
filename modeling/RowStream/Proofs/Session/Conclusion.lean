import RowStream.Proofs.Session.ExactlyOnce
import RowStream.Proofs.Session.Naming

/-!
Contract: a stream is finalized exactly if a commit of its session said so.

Owns:
- `concludes`, the answers of commits that finalized the stream, and `Conclusion`, what such an
  answer says about the service;
- `FlushStep.unfinalized` and `CommitStep.conclusion`, what the operations of a session that is
  in step make of its stream;
- `Course.Settled`, the invariant of a whole course;
- `Course.confined_perform` and `StartStep.confined`, the one stream that a call can change.

Main statement: `Course.settled_perform`, a call of a session keeps the invariant. A wrong
number of rows is told only if somebody scripted it.
-/

namespace RowStream

variable {σ : Type} {environment : Environment σ} {store : σ → Store} {faults : σ → Nat}
  {stream : String}

namespace Session

def mismatch? : Except SessionError Nat → Option (Nat × Nat)
  | .ok _ => none
  | .error error => error.rowCountMismatch?

/-- The answer of a commit after which the stream is finalized: success, or a number of rows
that is not the expected one. -/
def concludes (answer : Except SessionError Nat) : Bool :=
  answer.isOk || (mismatch? answer).isSome

/-- What does not conclude tells no other number of rows either. -/
theorem mismatch?_eq_none_of_not_concludes {answer : Except SessionError Nat}
    (inconclusive : concludes answer = false) : mismatch? answer = none := by
  cases told : mismatch? answer with
  | none => rfl
  | some counts => simp [concludes, told] at inconclusive

variable {session : Session} {state : σ} {accepted : List Row} {record : StreamRecord}

/-- Finalizing succeeds with the number of rows stored, or with the one that was scripted. -/
theorem finalizing_count (serves : Serves environment store faults)
    (found : (store state).find? stream = some record) (named : session.streamText = stream)
    {retried : Retried Nat}
    (answered : (session.finalizing environment state).outcome = .ok retried) :
    retried.value = record.rows.size ∨
      (store state).script.finalizeRowCount = some retried.value := by
  have paused : Still store faults state (session.pause environment state) :=
    serves.sleep_still _ state
  have pausedLater : Store.Later (store state) (store (session.pause environment state)) :=
    (later_keeps serves).sleep _ state
  unfold finalizing at answered
  rw [named] at answered
  -- Failed attempts leave the record and script no count, so the last one decides.
  refine (@Retry.run_invariant Nat σ environment.host (environment.client.finalize stream)
    (fun reached => Still store faults state reached ∧ Store.Later (store state) (store reached))
    (fun count _ => count = record.rows.size ∨
      (store state).script.finalizeRowCount = some count)
    (fun event reached failed => ⟨failed.1.trans (serves.report_still event reached),
      failed.2.trans ((later_keeps serves).report event reached)⟩)
    (fun duration reached failed => ⟨failed.1.trans (serves.sleep_still duration reached),
      failed.2.trans ((later_keeps serves).sleep duration reached)⟩)
    ?fails ?succeeds _ _ _ _ _ ⟨paused, pausedLater⟩).1 retried answered
  case fails =>
    intro reached status after failed called
    have later := (later_keeps serves).finalize stream reached
    have delivery := serves.finalize stream reached
    rw [called] at delivery later
    refine ⟨failed.1.trans ?_, failed.2.trans later⟩
    cases delivery with
    | reached served quiet => exact ⟨Store.finalize_error served, Nat.le_of_eq quiet.symm⟩
    | refused refusal untouched struck => exact .of_struck untouched struck
    | touched serving touch struck => exact absurd touch id
  case succeeds =>
    intro reached count after failed called
    obtain ⟨still, _, advances⟩ := failed
    have delivery := serves.finalize stream reached
    rw [called] at delivery
    cases delivery with
    | reached served quiet =>
        obtain ⟨_, same, sameFound, _, counted⟩ := Store.finalize_ok served
        have present := (still.find? stream).trans found
        have equal : same = record := Option.some.inj (sameFound.symm.trans present)
        rw [equal] at counted
        cases scripted : (store reached).script.finalizeRowCount with
        | none =>
            rw [scripted] at counted
            exact Or.inl counted
        | some rows =>
            rw [scripted] at counted
            rw [show count = rows from counted]
            exact Or.inr (advances.spent rows scripted)
    | refused refusal untouched struck =>
        obtain ⟨status, impossible⟩ := refusal
        exact absurd impossible (by simp)
    | touched serving touch struck => exact absurd touch id

/-- However a flush ends, it finalizes nothing. -/
theorem FlushStep.unfinalized (serves : Serves environment store faults)
    (inStep : InStepAt store stream accepted session state)
    {ended : Except SessionError Unit × Session × σ}
    (step : FlushStep environment session state ended) :
    ∃ after, (store ended.2.2).find? stream = some after ∧ after.finalized = false := by
  obtain ⟨record, found, inStep⟩ := inStep
  have announced : Still store faults state (session.announce environment state) :=
    serves.report_still _ state
  have present := (announced.find? stream).trans found
  have sentTo {reply : AppendReply} {reached : σ}
      (sent : environment.client.append { stream := stream } session.pending
        (UInt64.ofNat record.rows.size) (session.announce environment state) =
          (reply, reached)) :
      ∃ after, (store reached).find? stream = some after ∧ after.finalized = false := by
    rcases (serves.append_within present inStep.unfinished sent).2 with ⟨same, _⟩ | extended
    · exact ⟨record, same, inStep.unfinished⟩
    · exact ⟨record.extend session.pending, extended, inStep.unfinished⟩
  cases step.at_end inStep with
  | interrupted cancelled =>
      have reported : Still store faults state
          (session.reportFailure environment .interrupted state) := serves.report_still _ state
      exact ⟨record, (reported.find? stream).trans found, inStep.unfinished⟩
  | @rejected reply cause after sent unacknowledged =>
      have reported : Still store faults after (session.reportFailure environment cause after) :=
        serves.report_still _ after
      obtain ⟨reached, written, unfinished⟩ := sentTo sent
      exact ⟨reached, (reported.find? stream).trans written, unfinished⟩
  | acknowledged sent => exact sentTo sent

/-- A flush counts nothing that was finalized. -/
theorem FlushStep.rowCountMismatch?_eq_none {ended : Except SessionError Unit × Session × σ}
    (step : FlushStep environment session state ended) {error : SessionError}
    (failed : ended.1 = .error error) : error.rowCountMismatch? = none := by
  cases step with
  | interrupted cancelled =>
      rw [← Except.error.inj failed]
      rfl
  | unconnected closed =>
      rw [← Except.error.inj failed]
      rfl
  | rejected going connected sent judged =>
      rw [← Except.error.inj failed]
      rfl
  | acknowledged going connected sent => simp at failed

theorem AddStep.unfinalized (serves : Serves environment store faults)
    (inStep : InStepAt store stream accepted session state) {row : Row}
    {ended : Except SessionError Unit × Session × σ}
    (step : AddStep environment row session state ended) :
    ∃ after, (store ended.2.2).find? stream = some after ∧ after.finalized = false := by
  have unchanged : ∃ after, (store state).find? stream = some after ∧ after.finalized = false := by
    obtain ⟨record, found, inStep⟩ := inStep
    exact ⟨record, found, inStep.unfinished⟩
  cases step with
  | closed past => exact unchanged
  | buffered isOpen fits => exact unchanged
  | tooLarge isOpen large => exact unchanged
  | stuck isOpen overflows fits flushed => exact flushed.unfinalized serves inStep
  | flushed isOpen overflows fits flushed => exact flushed.unfinalized serves inStep

/-- What the answer of a commit says: whether the stream is finalized now, and if another
number of rows was told, that this number was scripted before. -/
structure Conclusion (store : σ → Store) (stream : String) (accepted : List Row) (before : σ)
    (answer : Except SessionError Nat) (after : σ) : Prop where
  finalized : ∃ record, (store after).find? stream = some record ∧
    record.finalized = concludes answer
  explained : ∀ expected actual, mismatch? answer = some (expected, actual) →
    expected = accepted.length ∧ actual ≠ accepted.length ∧
      (store before).script.finalizeRowCount = some actual

theorem ConcludeStep.conclusion (serves : Serves environment store faults)
    (inStep : InStepAt store stream accepted session state)
    (empty : session.pending.toList = []) {ended : Except SessionError Nat × Session × σ}
    (step : ConcludeStep environment session state ended) :
    Conclusion store stream accepted state ended.1 ended.2.2 := by
  obtain ⟨record, found, inStep⟩ := inStep
  have attempts := finalizing_outcome serves found inStep
  have sizes : session.committedCount = accepted.length := by
    rw [← inStep.stored_eq empty, Array.length_toList, inStep.counted]
  cases step with
  | interrupted cancelled =>
      have reported : Still store faults state
          (environment.host.report (.finalizeInterrupted session.streamText)
            (session.pause environment state)) :=
        (serves.sleep_still _ state).trans (serves.report_still _ _)
      exact ⟨⟨record, (reported.find? stream).trans found, inStep.unfinished⟩, by
        simp [mismatch?, SessionError.rowCountMismatch?]⟩
  | @refused error going gaveUp =>
      have reported := (attempts.2 error gaveUp).1.trans
        (serves.report_still (.finalizeFailed session.streamText error) _)
      exact ⟨⟨record, (reported.find? stream).trans found, inStep.unfinished⟩, by
        simp [mismatch?, SessionError.rowCountMismatch?]⟩
  | @miscounted retried going answered differs =>
      have reported := serves.report_still
        (.rowCountMismatch session.streamText session.committedCount retried.value)
        (session.finalizing environment state).state
      have finalized := (attempts.1 retried answered).2.1
      refine ⟨⟨{ record with finalized := true }, (reported.find? stream).trans finalized, rfl⟩, ?_⟩
      intro expected actual told
      obtain ⟨sameExpected, sameActual⟩ :
          session.committedCount = expected ∧ retried.value = actual := by
        simpa [mismatch?, SessionError.rowCountMismatch?] using told
      rw [← sameExpected, ← sameActual, ← sizes]
      refine ⟨rfl, differs, ?_⟩
      rcases finalizing_count serves found inStep.streamText_eq answered with stored | scripted
      · exact absurd (stored.trans inStep.counted) differs
      · exact scripted
  | @finalized retried going answered agrees =>
      have ended := closing_still serves
        (session.countFinalize retried.attempts (session.finalizing environment state).random)
        (.finalized session.streamText retried.value) (session.finalizing environment state).state
      exact ⟨⟨{ record with finalized := true },
        (ended.find? stream).trans (attempts.1 retried answered).2.1, rfl⟩, by simp [mismatch?]⟩

/-- Whether a commit has finalized the stream shows in its answer. -/
theorem CommitStep.conclusion (serves : Serves environment store faults)
    (consistent : Consistent session) (inStep : InStepAt store stream accepted session state)
    {ended : Except SessionError Nat × Session × σ}
    (step : CommitStep environment session state ended) :
    Conclusion store stream accepted state ended.1 ended.2.2 := by
  cases step with
  | closed past =>
      obtain ⟨_, _, inStep⟩ := inStep
      exact absurd inStep.isOpen past
  | unbuffered isOpen empty concluded => exact concluded.conclusion serves inStep empty
  | stuck isOpen waiting flushed =>
      obtain ⟨record, found, unfinished⟩ := flushed.unfinalized serves inStep
      have uncounted := flushed.rowCountMismatch?_eq_none rfl
      refine ⟨⟨record, found, ?_⟩, ?_⟩
      · simp [concludes, mismatch?, uncounted, Except.isOk, Except.toBool, unfinished]
      · simp [mismatch?, uncounted]
  | @flushed emptied between ended isOpen waiting flushed concluded =>
      obtain ⟨_, settled, _, empty⟩ := flushed.outcome serves consistent inStep
      obtain ⟨finalized, explained⟩ := concluded.conclusion serves settled empty
      obtain ⟨_, advances⟩ := flushed.kept (later_keeps serves)
      refine ⟨finalized, ?_⟩
      intro expected actual told
      obtain ⟨counted, differs, scripted⟩ := explained expected actual told
      exact ⟨counted, differs, advances.spent actual scripted⟩

end Session

def Move.Own : Move σ → Prop
  | .meanwhile _ => False
  | _ => True

theorem Move.Own.spares {move : Move σ} (own : move.Own) (store : σ → Store) (stream : String) :
    move.Spares store stream := by
  cases move with
  | add row => trivial
  | commit => trivial
  | abort => trivial
  | meanwhile change => exact absurd own id

namespace Course

variable {course : Course σ} {Scripted : Nat → Prop}

/-- The stream is finalized exactly if a commit said so; and where a commit told another number
of rows than those accepted, this number had been scripted. -/
structure Settled (Scripted : Nat → Prop) (store : σ → Store) (stream : String)
    (course : Course σ) : Prop where
  kept : course.Kept store stream
  finalized_iff : (store course.state).isFinalized stream = true ↔
    ∃ answer ∈ course.commits, Session.concludes answer = true
  explained : ∀ answer ∈ course.commits, ∀ expected actual,
    Session.mismatch? answer = some (expected, actual) →
      expected = course.accepted.length ∧ actual ≠ course.accepted.length ∧ Scripted actual

namespace Settled

/-- While a session is open no commit has concluded. -/
theorem inStep_of_open (settled : course.Settled Scripted store stream)
    (isOpen : course.session.phase = .open) :
    Session.InStepAt store stream course.accepted course.session course.state ∧
      ∀ answer ∈ course.commits, Session.concludes answer = false := by
  obtain ⟨_, record, found, account⟩ := settled.kept
  have inStep := account.inStep_of_open isOpen
  refine ⟨⟨record, found, inStep⟩, fun answer member => ?_⟩
  cases concluded : Session.concludes answer with
  | false => rfl
  | true =>
      have finalized := settled.finalized_iff.mpr ⟨answer, member, concluded⟩
      rw [Store.isFinalized_eq found, inStep.unfinished] at finalized
      exact absurd finalized (by simp)

/-- What else happens matters only if it changes the stream. -/
theorem of_find? (settled : course.Settled Scripted store stream) {state : σ}
    (same : (store state).find? stream = (store course.state).find? stream) :
    Settled Scripted store stream { course with state := state } where
  kept := by
    obtain ⟨consistent, record, found, account⟩ := settled.kept
    exact ⟨consistent, record, same.trans found, account⟩
  finalized_iff := by
    rw [Store.isFinalized_congr same]
    exact settled.finalized_iff
  explained := settled.explained

/-- An answer that does not conclude settles nothing more. -/
theorem answered (settled : course.Settled Scripted store stream)
    {answer : Except SessionError Nat} (inconclusive : Session.concludes answer = false) :
    Settled Scripted store stream { course with commits := course.commits ++ [answer] } where
  kept := settled.kept
  finalized_iff := by
    refine settled.finalized_iff.trans ?_
    simp [inconclusive]
  explained := by
    intro given member expected actual told
    rcases List.mem_append.mp member with earlier | now
    · exact settled.explained given earlier expected actual told
    · rw [List.mem_singleton.mp now,
        Session.mismatch?_eq_none_of_not_concludes inconclusive] at told
      exact absurd told (by simp)

end Settled

theorem settled_add (serves : Serves environment store faults)
    (settled : course.Settled Scripted store stream) (row : Row) :
    (course.add environment row).2.Settled Scripted store stream := by
  by_cases isOpen : course.session.phase = .open
  · obtain ⟨⟨before, present, inStep⟩, unconcluded⟩ := settled.inStep_of_open isOpen
    have step := Session.add_step environment.recorded row course.session
      (course.requests, course.state)
    obtain ⟨record, found, unfinished⟩ :=
      step.unfinalized (serves_recorded serves) ⟨before, present, inStep⟩
    have written : (store (course.add environment row).2.state).isFinalized stream = false :=
      (Store.isFinalized_eq found).trans unfinished
    refine ⟨kept_add serves settled.kept row, ?_, ?_⟩
    · rw [written]
      change false = true ↔ ∃ answer ∈ course.commits, Session.concludes answer = true
      simpa using unconcluded
    · intro answer member expected actual told
      rw [Session.mismatch?_eq_none_of_not_concludes (unconcluded answer member)] at told
      exact absurd told (by simp)
  · rw [add_of_closed environment row isOpen]
    exact settled

/-- A wrong number of rows needs an order for it that the service still holds. -/
theorem settled_commit (serves : Serves environment store faults)
    (settled : course.Settled Scripted store stream)
    (scripted : ∀ rows, (store course.state).script.finalizeRowCount = some rows →
      Scripted rows) :
    (course.commit environment).2.Settled Scripted store stream := by
  by_cases isOpen : course.session.phase = .open
  · obtain ⟨⟨before, present, inStep⟩, unconcluded⟩ := settled.inStep_of_open isOpen
    have kept := kept_commit serves settled.kept
    have step := Session.commit_step environment.recorded course.session
      (course.requests, course.state)
    unfold commit at kept ⊢
    cases ended : course.session.commit environment.recorded (course.requests, course.state) with
    | mk result rest =>
      rw [ended] at step kept
      obtain ⟨⟨record, found, finalized⟩, explained⟩ :=
        step.conclusion (serves_recorded serves) settled.kept.1 ⟨before, present, inStep⟩
      refine ⟨kept, ?_, ?_⟩
      · rw [Store.isFinalized_eq found, finalized]
        simp only [List.mem_append, List.mem_singleton]
        constructor
        · intro concluded
          exact ⟨result, Or.inr rfl, concluded⟩
        · rintro ⟨answer, earlier | rfl, concluded⟩
          · rw [unconcluded answer earlier] at concluded
            exact absurd concluded (by simp)
          · exact concluded
      · intro answer member expected actual told
        rcases List.mem_append.mp member with earlier | now
        · rw [Session.mismatch?_eq_none_of_not_concludes (unconcluded answer earlier)] at told
          exact absurd told (by simp)
        · rw [List.mem_singleton.mp now] at told
          obtain ⟨counted, differs, ordered⟩ := explained expected actual told
          exact ⟨counted, differs, scripted actual ordered⟩
  · rw [commit_of_closed environment isOpen]
    exact settled.answered rfl

theorem settled_abort (serves : Serves environment store faults)
    (settled : course.Settled Scripted store stream) :
    (course.abort environment).Settled Scripted store stream := by
  have kept := kept_abort serves settled.kept
  obtain ⟨_, record, found, account⟩ := settled.kept
  have step := Session.abort_step environment.recorded course.session
    (course.requests, course.state)
  obtain ⟨still, _⟩ := step.outcome (serves_recorded serves) found account
  have same : (store (course.abort environment).state).isFinalized stream =
      (store course.state).isFinalized stream := Store.isFinalized_congr (still.find? stream)
  refine ⟨kept, ?_, settled.explained⟩
  rw [same]
  exact settled.finalized_iff

/-- What happens around the session leaves the stream alone; a commit needs to know what is
scripted. -/
theorem settled_perform (serves : Serves environment store faults)
    (settled : course.Settled Scripted store stream)
    (scripted : ∀ rows, (store course.state).script.finalizeRowCount = some rows → Scripted rows)
    (move : Move σ) (spares : move.Spares store stream) :
    (course.perform environment move).Settled Scripted store stream := by
  cases move with
  | add row => exact settled_add serves settled row
  | commit => exact settled_commit serves settled scripted
  | abort => exact settled_abort serves settled
  | meanwhile change => exact settled.of_find? (spares course.state)

theorem settled_start (serves : Serves environment store faults) {table : String}
    {schema : Schema} {config : Config} {random : Random} {state : σ}
    (started : start environment table schema config random state = .ok course) :
    course.Settled Scripted store course.session.streamText := by
  have kept := kept_start serves started
  obtain ⟨⟨_, _, _, opened⟩, _, unasked⟩ := start_session started
  obtain ⟨_, record, found, account⟩ := kept
  have inStep := account.inStep_of_open (by rw [opened]; rfl)
  refine ⟨kept_start serves started, ?_, ?_⟩
  · rw [Store.isFinalized_eq found, inStep.unfinished, unasked]
    simp
  · rw [unasked]
    simp

/-! ### Beyond the stream -/

/-- A call of a session, however it ends, changes its own stream at most. -/
theorem confined_perform (serves : Serves environment store faults)
    (kept : course.Kept store stream) (move : Move σ) (own : move.Own) :
    Store.ConfinedTo stream (store course.state)
      (store (course.perform environment move).state) := by
  obtain ⟨consistent, record, found, account⟩ := kept
  have unchanged : Store.ConfinedTo stream (store course.state) (store course.state) :=
    (Store.SameRecords.refl _).confined stream
  have recorded := serves_recorded serves
  cases move with
  | add row =>
      by_cases isOpen : course.session.phase = .open
      · exact ((Session.add_step environment.recorded row course.session
          (course.requests, course.state)).outcome recorded consistent
            ⟨record, found, account.inStep_of_open isOpen⟩).1.confined
      · rw [perform, add_of_closed environment row isOpen]
        exact unchanged
  | commit =>
      by_cases isOpen : course.session.phase = .open
      · exact ((Session.commit_step environment.recorded course.session
          (course.requests, course.state)).outcome recorded consistent
            ⟨record, found, account.inStep_of_open isOpen⟩).1.confined
      · rw [perform, commit_of_closed environment isOpen]
        exact unchanged
  | abort =>
      have step := Session.abort_step environment.recorded course.session
        (course.requests, course.state)
      exact (step.outcome recorded found account).1.records.confined stream
  | meanwhile change => exact absurd own id

theorem later_perform (serves : Serves environment store faults) (course : Course σ)
    (move : Move σ) (own : move.Own) :
    Store.Later (store course.state) (store (course.perform environment move).state) := by
  have keeps := later_keeps (serves_recorded serves)
  cases move with
  | add row =>
      exact (Session.add_step environment.recorded row course.session
        (course.requests, course.state)).kept keeps
  | commit =>
      exact (Session.commit_step environment.recorded course.session
        (course.requests, course.state)).kept keeps
  | abort =>
      exact (Session.abort_step environment.recorded course.session
        (course.requests, course.state)).kept keeps
  | meanwhile change => exact absurd own id

/-- A session that is dropped writes nothing. -/
theorem drop_still (serves : Serves environment store faults) (course : Course σ) :
    Store.SameRecords (store course.state) (store (course.drop environment).2) := by
  unfold drop Session.release
  split
  · exact Store.SameRecords.refl _
  · have closed := (Session.closeAppender_step environment.recorded course.session
      (environment.recorded.host.report
        (.droppedUnfinished course.session.streamText course.session.phase)
        (course.requests, course.state))).still (serves_recorded serves)
    exact ((serves_recorded serves).report_still _ _).records.trans closed.records

theorem drop_later (serves : Serves environment store faults) (course : Course σ) :
    Store.Later (store course.state) (store (course.drop environment).2) :=
  Session.release_kept (later_keeps (serves_recorded serves)) course.session
    (course.requests, course.state)

end Course

/-- Opening a session, however that ends, changes at most the stream with the next number. -/
theorem Session.StartStep.confined (serves : Serves environment store faults) {table : String}
    {schema : Schema} {config : Config} {random : Random} {state : σ}
    {ended : Except SessionError Session × σ}
    (step : StartStep environment table schema config random state ended) :
    Store.ConfinedTo (Store.streamName table ((store state).created + 1)) (store state)
      (store ended.2) := by
  have attempts := serves.create_run config.retry config.retryableCodes "create_write_stream"
    table .pending random state
  have opens {created : Retried CreatedStream}
      (answered : (creating environment table config random state).outcome = .ok created) :
      Store.ConfinedTo (Store.streamName table ((store state).created + 1)) (store state)
        (store (creating environment table config random state).state) := by
    have named := (serves.create_run_name config.retry config.retryableCodes
      "create_write_stream" table .pending random answered).1
    rw [← named]
    exact (attempts.1 created answered).1.confined
  cases step with
  | invalid flawed => exact (Store.SameRecords.refl _).confined _
  | @notCreated error valid gaveUp =>
      have still : Still store faults state
          (creating environment table config random state).state := (attempts.2 error gaveUp).1
      exact (still.trans (serves.report_still _ _)).records.confined _
  | notBound valid answered bound =>
      exact (opens answered).trans ((serves.bind_still bound).1.records.confined _)
  | opened valid answered bound =>
      exact (opens answered).trans
        (((serves.bind_still bound).1.trans (serves.report_still _ _)).records.confined _)

end RowStream
