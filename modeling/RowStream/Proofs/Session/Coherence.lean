import RowStream.Proofs.Client.Serving
import RowStream.Proofs.Session.Course
import RowStream.Proofs.Session.Representation

/-!
Contract: the fields of a session agree with each other throughout its course, whatever the
client answers.

Owns:
- `Course.consistent_run`, the consistency of every session that can be reached;
- `AddStep.answer_ne_closed` and `CommitStep.answer_ne_closed`, an open session finds its
  connection.

Main statement: `Course.fields_agree`.
-/

namespace RowStream

variable {σ : Type} {environment : Environment σ}

/-! ### The connection of an open session -/

namespace Session

variable {session : Session} {state : σ}

/-- An open session has its appender, so that a flush never misses it. -/
theorem Consistent.connected_of_open (consistent : session.Consistent)
    (isOpen : session.phase = .open) : session.appender ≠ none := by
  have present := consistent.connected_iff.mpr (Or.inl isOpen)
  intro absent
  rw [absent] at present
  simp at present

/-- Only a flush without a connection calls the session closed. -/
theorem FlushStep.answer_ne_closed {ended : Except SessionError Unit × Session × σ}
    (step : FlushStep environment session state ended) (connected : session.appender ≠ none)
    (phase : Phase) : ended.1 ≠ .error (.closed phase) := by
  cases step with
  | interrupted cancelled => simp [appendError]
  | unconnected closed => exact absurd closed connected
  | rejected going present sent judged => simp [appendError]
  | acknowledged going present sent => simp

theorem ConcludeStep.answer_ne_closed {ended : Except SessionError Nat × Session × σ}
    (step : ConcludeStep environment session state ended) (phase : Phase) :
    ended.1 ≠ .error (.closed phase) := by
  cases step with
  | interrupted cancelled => simp
  | refused going gaveUp => simp
  | miscounted going answered differs => simp
  | finalized going answered agrees => simp

/-- The refusal by which a flush answers a missing appender is never given. -/
theorem AddStep.answer_ne_closed {row : Row} {ended : Except SessionError Unit × Session × σ}
    (step : AddStep environment row session state ended) (consistent : session.Consistent)
    (isOpen : session.phase = .open) (phase : Phase) : ended.1 ≠ .error (.closed phase) := by
  cases step with
  | closed past => exact absurd isOpen past
  | buffered _ fits => simp
  | tooLarge _ large => simp
  | stuck _ overflows fits flushed =>
      exact flushed.answer_ne_closed (consistent.connected_of_open isOpen) phase
  | flushed _ overflows fits flushed => simp

theorem CommitStep.answer_ne_closed {ended : Except SessionError Nat × Session × σ}
    (step : CommitStep environment session state ended) (consistent : session.Consistent)
    (isOpen : session.phase = .open) (phase : Phase) : ended.1 ≠ .error (.closed phase) := by
  cases step with
  | closed past => exact absurd isOpen past
  | unbuffered _ empty concluded => exact concluded.answer_ne_closed phase
  | stuck _ waiting flushed =>
      have answer := flushed.answer_ne_closed (consistent.connected_of_open isOpen) phase
      simpa using answer
  | flushed _ waiting flushed concluded => exact concluded.answer_ne_closed phase

end Session

/-! ### Whole courses -/

namespace Course

variable {course : Course σ}

theorem consistent_start {table : String} {schema : Schema} {config : Config} {random : Random}
    {state : σ} (started : start environment table schema config random state = .ok course) :
    course.session.Consistent := by
  obtain ⟨⟨appender, created, later, opened⟩, _⟩ := start_session started
  rw [opened]
  exact .fresh table schema config appender created later

theorem consistent_perform (consistent : course.session.Consistent) (move : Move σ) :
    (course.perform environment move).session.Consistent := by
  cases move with
  | add row => exact consistent.add (Session.add_step environment.recorded row _ _)
  | commit => exact consistent.commit (Session.commit_step environment.recorded _ _)
  | abort =>
      have aborted := (Session.abort_step environment.recorded course.session
        (course.requests, course.state)).session_eq
      show (course.session.abort environment.recorded
        (course.requests, course.state)).1.Consistent
      rw [aborted]
      exact .giveUp course.session
  | meanwhile change => exact consistent

theorem consistent_run {table : String} {schema : Schema} {config : Config} {random : Random}
    {state : σ} (started : start environment table schema config random state = .ok course)
    (moves : List (Move σ)) : (course.run environment moves).session.Consistent :=
  run_induction (fun reached => reached.session.Consistent) (fun _ => True)
    (fun _ move consistent _ => consistent_perform consistent move) moves (fun _ _ => trivial)
    course (consistent_start started)

theorem ceiling_run {table : String} {schema : Schema} {config : Config} {random : Random}
    {state : σ} (started : start environment table schema config random state = .ok course)
    (moves : List (Move σ)) : (course.run environment moves).session.ceiling = config.ceiling := by
  obtain ⟨⟨_, _, _, opened⟩, _⟩ := start_session started
  rw [Session.ceiling, config_run course moves, opened]
  rfl

/-- In whatever order things happen, and whatever the client answers: the totals are those of
the buffer, which fits into one request, and connection and name are there in the phases that
need them. So the sum by which a row is judged is exact in 64 bits, and sending the buffer
never finds the connection missing. -/
theorem fields_agree {table : String} {schema : Schema} {config : Config} {random : Random}
    {state : σ} (started : start environment table schema config random state = .ok course)
    (moves : List (Move σ)) :
    let reached := course.run environment moves
    let session := reached.session
    session.pendingBytes = session.pending.byteSize ∧ session.pendingBytes ≤ config.ceiling ∧
      session.pendingCount = session.pending.length ∧
      (session.appender.isSome ↔ session.phase = .open ∨ session.phase = .failed) ∧
      (session.stream = none ↔ session.phase = .aborted) ∧
      (session.phase = .committed → session.pending.toList = []) ∧
      (∀ row : Row, config.ceiling + row.size < UInt64.size →
        (UInt64.ofNat session.pendingBytes + UInt64.ofNat row.size).toNat =
          session.pendingBytes + row.size) ∧
      (session.phase = .open → ∀ phase,
        (∀ now, (session.flush environment now).1 ≠ .error (.closed phase)) ∧
          (∀ row, (reached.add environment row).1 ≠ .error (.closed phase)) ∧
          (reached.commit environment).1 ≠ .error (.closed phase)) := by
  intro reached session
  have consistent : session.Consistent := consistent_run started moves
  have settings : session.ceiling = config.ceiling := ceiling_run started moves
  refine ⟨consistent.bytes_eq, settings ▸ consistent.bytes_le, consistent.count_eq,
    consistent.connected_iff, consistent.nameless_iff, consistent.emptied, ?_, ?_⟩
  · intro row bounded
    exact consistent.toNat_add (settings ▸ bounded)
  · intro isOpen phase
    refine ⟨fun now => ?_, fun row => ?_, ?_⟩
    · exact (Session.flush_step environment session now).answer_ne_closed
        (consistent.connected_of_open isOpen) phase
    · exact (Session.add_step environment.recorded row session _).answer_ne_closed consistent
        isOpen phase
    · exact (Session.commit_step environment.recorded session _).answer_ne_closed consistent
        isOpen phase

/-- A row that is too large, one that makes room for itself, and one without bytes. -/
theorem fields_agree_of_overflow :
    ∃ course moves,
      moves = [.add (filledRow 3 1), .add (filledRow 5 2), .add (filledRow 2 3),
          .add (filledRow 0 4)] ∧
        start (Environment.simulated false none) "table" ⟨"Row", .empty⟩ (Config.withCeiling 4)
          (.seeded 0) { backend := ({ rates := FaultRates.none, random := .seeded 0 }, {}) } =
            .ok course ∧
        let reached := course.run (Environment.simulated false none) moves
        let session := reached.session
        session.phase = .open ∧ session.committedCount = 1 ∧
          session.pendingBytes = 2 ∧ session.pending.byteSize = 2 ∧ session.pending.length = 2 ∧
          session.appender.isSome ∧ session.stream ≠ none ∧
          (UInt64.ofNat session.pendingBytes + UInt64.ofNat (filledRow 4 5).size).toNat = 6 ∧
          ∀ phase, (reached.add (Environment.simulated false none) (filledRow 4 5)).1 ≠
            .error (.closed phase) := by
  have ran : ∃ course moves,
      moves = [.add (filledRow 3 1), .add (filledRow 5 2), .add (filledRow 2 3),
          .add (filledRow 0 4)] ∧
        start (Environment.simulated false none) "table" ⟨"Row", .empty⟩ (Config.withCeiling 4)
          (.seeded 0) { backend := ({ rates := FaultRates.none, random := .seeded 0 }, {}) } =
            .ok course ∧
        let session := (course.run (Environment.simulated false none) moves).session
        session.phase = .open ∧ session.committedCount = 1 ∧
          session.pendingBytes = 2 ∧ session.pendingCount = 2 := by
    refine ⟨_, _, rfl, rfl, rfl, rfl, rfl, rfl⟩
  obtain ⟨course, moves, planned, started, isOpen, sent, bytes, rows⟩ := ran
  obtain ⟨total, _, count, connected, nameless, _, exact, answers⟩ := fields_agree started moves
  have named : (course.run (Environment.simulated false none) moves).session.stream ≠ none := by
    intro absent
    have aborted := nameless.mp absent
    simp [isOpen] at aborted
  have sum := exact (filledRow 4 5) (by decide)
  rw [bytes] at total sum
  rw [rows] at count
  refine ⟨course, moves, planned, started, isOpen, sent, bytes, total.symm, count.symm,
    connected.mpr (Or.inl isOpen), named, ?_, fun phase => (answers isOpen phase).2.1 _⟩
  rw [bytes, sum, size_filledRow]

end Course

end RowStream
