import RowStream.Proofs.Session.Coherence
import RowStream.Proofs.Session.ExactlyOnce

/-!
Contract: a session that failed, was committed or was aborted takes part in nothing any more.

Owns:
- `AddStep.past_of_error` and `CommitStep.past`, the operations that close a session;
- `Course.past_run`, a closed session is never open again;
- `AbortStep.requests_eq` and `Course.abort_abort`, what an abort asks for, and that a second
  one asks for nothing.

Main statement: `Course.closed_inert`.
-/

namespace RowStream

variable {σ : Type} {environment : Environment σ}

namespace Session

variable {session : Session} {state : σ}

/-! ### What closes a session -/

/-- A flush that fails ends the session. -/
theorem FlushStep.past_of_error {ended : Except SessionError Unit × Session × σ}
    (step : FlushStep environment session state ended) (connected : session.appender ≠ none)
    {error : SessionError} (answered : ended.1 = .error error) : ended.2.1.phase ≠ .open := by
  cases step with
  | interrupted cancelled => simp [fail]
  | unconnected closed => exact absurd closed connected
  | rejected going present sent judged => simp [fail]
  | acknowledged going present sent => simp at answered

/-- A conclusion ends the session, whether it succeeds or not. -/
theorem ConcludeStep.past {ended : Except SessionError Nat × Session × σ}
    (step : ConcludeStep environment session state ended) : ended.2.1.phase ≠ .open := by
  cases step with
  | interrupted cancelled => simp [fail]
  | refused going gaveUp => simp [fail]
  | miscounted going answered differs => simp [fail]
  | finalized going answered agrees => simp [finish]

/-- A row that is too large is the only failure that leaves a session open. -/
theorem AddStep.past_of_error {row : Row} {ended : Except SessionError Unit × Session × σ}
    (step : AddStep environment row session state ended) (consistent : session.Consistent)
    {error : SessionError} (answered : ended.1 = .error error) :
    error = .rowTooLarge row.size session.ceiling ∨ ended.2.1.phase ≠ .open := by
  cases step with
  | closed past => exact Or.inr past
  | buffered isOpen fits => simp at answered
  | tooLarge isOpen large => exact Or.inl (Except.error.inj answered).symm
  | stuck isOpen overflows fits flushed =>
      exact Or.inr (flushed.past_of_error (consistent.connected_of_open isOpen) rfl)
  | flushed isOpen overflows fits flushed => simp at answered

/-- Whatever a commit answers, no session is open after it. -/
theorem CommitStep.past {ended : Except SessionError Nat × Session × σ}
    (step : CommitStep environment session state ended) (consistent : session.Consistent) :
    ended.2.1.phase ≠ .open := by
  cases step with
  | closed past => exact past
  | unbuffered isOpen empty concluded => exact concluded.past
  | stuck isOpen waiting flushed =>
      exact flushed.past_of_error (consistent.connected_of_open isOpen) rfl
  | flushed isOpen waiting flushed concluded => exact concluded.past

/-! ### Aborting -/

variable {requests : List Request}

/-- An abort closes the appender if there is one, and asks for nothing else. -/
theorem AbortStep.requests_eq {ended : Session × List Request × σ}
    (step : AbortStep environment.recorded session (requests, state) ended) :
    ended.2.1 = requests ++ session.appender.toList.map .close := by
  cases step with
  | silent nameless closed => exact closed.requests_eq
  | reported named closed => exact closed.requests_eq

/-- Nothing is left to give up a second time. -/
theorem abort_of_giveUp (environment : Environment σ) (session : Session) (state : σ) :
    session.giveUp.abort environment state = (session.giveUp, state) := rfl

end Session

/-! ### Whole courses -/

namespace Course

variable {course : Course σ}

theorem past_perform (past : course.session.phase ≠ .open) (move : Move σ) :
    (course.perform environment move).session.phase ≠ .open := by
  cases move with
  | add row =>
      show (course.add environment row).2.session.phase ≠ .open
      rw [add_of_closed environment row past]
      exact past
  | commit =>
      show (course.commit environment).2.session.phase ≠ .open
      rw [commit_of_closed environment past]
      exact past
  | abort =>
      have aborted := (Session.abort_step environment.recorded course.session
        (course.requests, course.state)).session_eq
      show (course.session.abort environment.recorded
        (course.requests, course.state)).1.phase ≠ .open
      rw [aborted]
      simp [Session.giveUp]
  | meanwhile change => exact past

theorem past_run (past : course.session.phase ≠ .open) (moves : List (Move σ)) :
    (course.run environment moves).session.phase ≠ .open :=
  run_induction (fun reached => reached.session.phase ≠ .open) (fun _ => True)
    (fun _ move past _ => past_perform past move) moves (fun _ _ => trivial) course past

theorem abort_session (environment : Environment σ) (course : Course σ) :
    (course.abort environment).session = course.session.giveUp :=
  (Session.abort_step environment.recorded course.session
    (course.requests, course.state)).session_eq

theorem abort_abort (environment : Environment σ) (course : Course σ) :
    (course.abort environment).abort environment = course.abort environment := by
  have given := abort_session environment course
  have again := Session.abort_of_giveUp environment.recorded course.session
    ((course.abort environment).requests, (course.abort environment).state)
  rw [← given] at again
  rw [abort, again]

/-- In whatever order things happen, and whatever the client answers: each failure but that of
a row which is too large closes the session, for good. A closed session answers with its phase
and asks for nothing. An abort empties the session in every phase and asks for nothing but the
release of a connection still held, a second abort for nothing at all. -/
theorem closed_inert {table : String} {schema : Schema} {config : Config} {random : Random}
    {state : σ} (started : start environment table schema config random state = .ok course)
    (moves : List (Move σ)) :
    let reached := course.run environment moves
    let session := reached.session
    let whole := (reached.requests, reached.state)
    let aborted := reached.abort environment
    (∀ row error, (reached.add environment row).1 = .error error →
        error = .rowTooLarge row.size config.ceiling ∨
          (reached.add environment row).2.session.phase ≠ .open) ∧
      (∀ error, (reached.commit environment).1 = .error error →
        (reached.commit environment).2.session.phase ≠ .open) ∧
      (session.phase ≠ .open →
        (∀ later, (reached.run environment later).session.phase ≠ .open) ∧
          (∀ row, session.add environment.recorded row whole =
            (.error (.closed session.phase), session, whole)) ∧
          session.commit environment.recorded whole =
            (.error (.closed session.phase), session, whole)) ∧
      (aborted.session.phase = .aborted ∧ aborted.session.pending.toList = [] ∧
        aborted.session.pendingBytes = 0 ∧ aborted.session.pendingCount = 0 ∧
        aborted.session.stream = none ∧
        aborted.requests = reached.requests ++ session.appender.toList.map .close ∧
        aborted.abort environment = aborted) := by
  intro reached session whole aborted
  have consistent : session.Consistent := consistent_run started moves
  have settings : session.ceiling = config.ceiling := ceiling_run started moves
  have addStep := fun row => Session.add_step environment.recorded row session whole
  have commitStep := Session.commit_step environment.recorded session whole
  have given : aborted.session = session.giveUp := abort_session environment reached
  refine ⟨?_, ?_, ?_, ?_⟩
  · intro row error answered
    rw [← settings]
    exact (addStep row).past_of_error consistent answered
  · intro error answered
    exact commitStep.past consistent
  · intro past
    exact ⟨past_run past, fun row => (addStep row).eq_of_closed past,
      commitStep.eq_of_closed past⟩
  · have asked : aborted.requests = reached.requests ++ session.appender.toList.map .close :=
      (Session.abort_step environment.recorded session whole).requests_eq
    rw [given]
    exact ⟨rfl, rfl, rfl, rfl, rfl, asked, abort_abort environment reached⟩

/-- An append that is acknowledged at another offset closes the session. What it carried stays
in the buffer until the session is aborted. -/
theorem closed_inert_of_skew :
    ∃ course moves,
      moves = [.add (filledRow 3 1), .order (.skewAck 1), .add (filledRow 2 2)] ∧
        let environment := Environment.simulated false none
        start environment "table" ⟨"Row", .empty⟩ (Config.withCeiling 4) (.seeded 0)
          { backend := ({ rates := FaultRates.none, random := .seeded 0 }, {}) } = .ok course ∧
        let reached := course.run environment moves
        let aborted := reached.abort environment
        reached.session.phase = .failed ∧ reached.session.pending.length = 1 ∧
          (reached.add environment (filledRow 1 3)).1 = .error (.closed .failed) ∧
          (reached.commit environment).1 = .error (.closed .failed) ∧
          aborted.session.phase = .aborted ∧ aborted.session.pending.toList = [] ∧
          aborted.requests = reached.requests ++ [.close ⟨reached.session.streamText, false⟩] ∧
          aborted.abort environment = aborted := by
  have ran : ∃ course moves,
      moves = [.add (filledRow 3 1), .order (.skewAck 1), .add (filledRow 2 2)] ∧
        let environment := Environment.simulated false none
        start environment "table" ⟨"Row", .empty⟩ (Config.withCeiling 4) (.seeded 0)
          { backend := ({ rates := FaultRates.none, random := .seeded 0 }, {}) } = .ok course ∧
        let session := (course.run environment moves).session
        session.phase = .failed ∧ session.pending.length = 1 ∧
          session.appender = some ⟨session.streamText, false⟩ := by
    refine ⟨_, _, rfl, rfl, rfl, rfl, rfl⟩
  obtain ⟨course, moves, planned, started, failed, rows, wired⟩ := ran
  obtain ⟨_, _, inert, aborted, empty, _, _, _, asked, again⟩ := closed_inert started moves
  have past : (course.run (Environment.simulated false none) moves).session.phase ≠ .open := by
    rw [failed]
    decide
  obtain ⟨_, refused, uncommitted⟩ := inert past
  rw [failed] at refused uncommitted
  rw [wired] at asked
  exact ⟨course, moves, planned, started, failed, rows, congrArg Prod.fst (refused _),
    congrArg Prod.fst uncommitted, aborted, empty, asked, again⟩

end Course

end RowStream
