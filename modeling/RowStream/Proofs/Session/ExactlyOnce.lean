import RowStream.Proofs.Session.Account
import RowStream.Proofs.Session.Course
import RowStream.Store.Mishap

/-!
Contract: no row of a session is lost, written twice or written out of order.

Owns:
- `Move.Spares`, what happens around a session without touching its stream, and the moves
  that script a fault or cancel a token;
- `Course.Kept`, the invariant of a whole course: its account and the consistency of its
  session.

Main statements: `Course.stored_prefix_accepted`, what the service stores in each phase,
and `Course.commit_exactly_once`, what it stores after a successful commit and when a
commit has to succeed.
-/

namespace RowStream

variable {σ : Type} {environment : Environment σ} {store : σ → Store} {faults : σ → Nat}
  {stream : String}

namespace Move

/-- Calls of the session itself, and anything else that leaves its stream alone. -/
def Spares (store : σ → Store) (stream : String) : Move σ → Prop
  | .meanwhile change => ∀ state, (store (change state)).find? stream = (store state).find? stream
  | _ => True

def order (mishap : Mishap) : Move SimStage :=
  .meanwhile fun stage => { stage with backend := (stage.backend.1, stage.store.plan mishap) }

def cancel (token : String) : Move SimStage := .meanwhile (Stage.cancel token)

theorem order_spares (mishap : Mishap) (stream : String) :
    (order mishap).Spares SimStage.store stream := fun _ => rfl

theorem cancel_spares (token stream : String) :
    (cancel token).Spares SimStage.store stream := fun _ => rfl

end Move

namespace Course

variable {course : Course σ}

/-- The service's record of the stream accounts for every row that the session accepted. -/
def Kept (store : σ → Store) (stream : String) (course : Course σ) : Prop :=
  Session.Consistent course.session ∧
    ∃ record, (store course.state).find? stream = some record ∧
      Session.Account stream course.accepted record course.session

theorem kept_add (serves : Serves environment store faults) (kept : course.Kept store stream)
    (row : Row) : (course.add environment row).2.Kept store stream := by
  by_cases isOpen : course.session.phase = .open
  · obtain ⟨consistent, record, found, account⟩ := kept
    have step := Session.add_step environment.recorded row course.session
      (course.requests, course.state)
    unfold add
    cases ended : course.session.add environment.recorded row (course.requests, course.state) with
    | mk result rest =>
      rw [ended] at step
      refine ⟨consistent.add step, ?_⟩
      have inStep := account.inStep_of_open isOpen
      have outcome :=
        (step.outcome (serves_recorded serves) consistent ⟨record, found, inStep⟩).2
      cases result with
      | ok done =>
          obtain ⟨after, stored, still⟩ := outcome
          exact ⟨after, stored, .open still⟩
      | error error =>
          rcases outcome with ⟨_, _, unchanged⟩ | failure
          · simp only at unchanged
            rw [unchanged]
            exact ⟨record, found, account⟩
          · obtain ⟨after, stored, halted, _⟩ := failure.halted
            exact ⟨after, stored, .failed halted⟩
  · rw [add_of_closed environment row isOpen]
    exact kept

theorem kept_commit (serves : Serves environment store faults) (kept : course.Kept store stream) :
    (course.commit environment).2.Kept store stream := by
  by_cases isOpen : course.session.phase = .open
  · obtain ⟨consistent, record, found, account⟩ := kept
    have step := Session.commit_step environment.recorded course.session
      (course.requests, course.state)
    unfold commit
    cases ended : course.session.commit environment.recorded (course.requests, course.state) with
    | mk result rest =>
      rw [ended] at step
      refine ⟨consistent.commit step, ?_⟩
      have inStep := account.inStep_of_open isOpen
      have outcome :=
        (step.outcome (serves_recorded serves) consistent ⟨record, found, inStep⟩).2
      cases result with
      | ok count =>
          obtain ⟨_, after, stored, complete⟩ := outcome
          exact ⟨after, stored, .committed complete⟩
      | error error =>
          obtain ⟨after, stored, halted, _⟩ := outcome.halted
          exact ⟨after, stored, .failed halted⟩
  · rw [commit_of_closed environment isOpen]
    exact kept

theorem kept_abort (serves : Serves environment store faults) (kept : course.Kept store stream) :
    (course.abort environment).Kept store stream := by
  obtain ⟨_, record, found, account⟩ := kept
  have step := Session.abort_step environment.recorded course.session
    (course.requests, course.state)
  obtain ⟨_, stored, settled, consistent⟩ := step.outcome (serves_recorded serves) found account
  exact ⟨consistent, record, stored, settled⟩

/-- Moves that leave the stream to its session keep the account. -/
theorem kept_perform (serves : Serves environment store faults) (kept : course.Kept store stream)
    (move : Move σ) (spares : move.Spares store stream) :
    (course.perform environment move).Kept store stream := by
  cases move with
  | add row => exact kept_add serves kept row
  | commit => exact kept_commit serves kept
  | abort => exact kept_abort serves kept
  | meanwhile change =>
      obtain ⟨consistent, record, found, account⟩ := kept
      exact ⟨consistent, record, (spares course.state).trans found, account⟩

theorem kept_run (serves : Serves environment store faults) (kept : course.Kept store stream)
    (moves : List (Move σ)) (alone : ∀ move ∈ moves, move.Spares store stream) :
    (course.run environment moves).Kept store stream :=
  run_induction (Kept store stream) (Move.Spares store stream)
    (fun _ move kept spares => kept_perform serves kept move spares) moves alone course kept

/-- A stream that was just created is empty, and so is the list of accepted rows. -/
theorem kept_start (serves : Serves environment store faults) {table : String} {schema : Schema}
    {config : Config} {random : Random} {state : σ}
    (started : start environment table schema config random state = .ok course) :
    course.Kept store course.session.streamText := by
  obtain ⟨_, ⟨record, found, inStep⟩, consistent⟩ :=
    (step_of_start started).outcome (serves_recorded serves)
  rw [← (start_eq started).2.1] at inStep
  exact ⟨consistent, record, found, .open inStep⟩

/-! ### Sessions on the simulated service -/

section Simulated

variable (faulty : Bool) (token : Option String) {table : String} {schema : Schema}
  {config : Config} {random : Random} {stage : SimStage} {course : Course SimStage}

/-- In whatever order things happen: the service stores a prefix of the accepted rows which
has every acknowledged one, and how much more there can be depends on the phase alone. The
number of acknowledged rows never falls, and it is the offset of every append. -/
theorem stored_prefix_accepted
    (started : start (.simulated faulty token) table schema config random stage = .ok course)
    (moves : List (Move SimStage))
    (alone : ∀ move ∈ moves, move.Spares SimStage.store course.session.streamText) :
    let environment := Environment.simulated faulty token
    let reached := course.run environment moves
    let stored := reached.state.store.rows course.session.streamText
    let acknowledged := reached.session.committedCount
    let pending := reached.session.pending.toList
    acknowledged ≤ stored.length ∧ stored <+: reached.accepted ∧
      (reached.session.phase = .open →
        reached.accepted = stored ++ pending ∧ stored.length = acknowledged) ∧
      (reached.session.phase = .committed →
        stored = reached.accepted ∧ stored.length = acknowledged) ∧
      (reached.session.phase = .failed →
        stored = reached.accepted.take acknowledged ∨
          stored = reached.accepted.take acknowledged ++ pending) ∧
      (∀ move, acknowledged ≤ (reached.perform environment move).session.committedCount ∧
        Request.Added (Request.ClaimsAt (UInt64.ofNat acknowledged)) reached.requests
          (reached.perform environment move).requests) ∧
      ∀ appender batch offset, .append appender batch offset ∉ course.requests := by
  intro environment reached stored acknowledged pending
  have serves := serves_simulated faulty token
  obtain ⟨_, record, found, account⟩ := kept_run serves (kept_start serves started) moves alone
  have storedEq : stored = record.rows.toList := Store.rows_eq found
  have sizes : stored.length = record.rows.size := by rw [storedEq, Array.length_toList]
  refine ⟨?_, ?_, ?_, ?_, ?_, fun move => ⟨?_, ?_⟩, start_requests started⟩
  · rw [sizes]
    exact account.committedCount_le
  · rw [storedEq]
    exact account.stored_prefix
  · intro isOpen
    have inStep := account.inStep_of_open isOpen
    exact ⟨storedEq ▸ inStep.divided, sizes.trans inStep.counted⟩
  · intro isCommitted
    have complete := account.complete_of_committed isCommitted
    have same : stored = reached.accepted := storedEq.trans complete.stored
    exact ⟨same, (congrArg List.length same).trans complete.counted.symm⟩
  · intro hasFailed
    obtain ⟨front, counted, divided, either⟩ := (account.halted_of_failed hasFailed).divided
    -- In doubt are only the rows of the last append: the service has all of them or none.
    have taken : reached.accepted.take acknowledged = front := by
      show reached.accepted.take reached.session.committedCount = front
      rw [divided, ← counted]
      exact List.take_left
    rw [taken, storedEq]
    rcases either with behind | ahead
    · exact Or.inl behind
    · exact Or.inr (ahead.trans divided)
  · exact committedCount_le_perform environment reached move
  · exact append_offsets_perform environment reached move

/-- Two rows were accepted and the answer to the append of the first one was lost: nothing
is acknowledged, and the service has one row. -/
theorem stored_prefix_accepted_of_lost_answer :
    ∃ course moves,
      moves = [.add (filledRow 3 1), .order .dropAppendResponse, .add (filledRow 2 2)] ∧
        start (.simulated false none) "table" ⟨"Row", .empty⟩ (Config.withCeiling 4) (.seeded 0)
          { backend := ({ rates := FaultRates.none, random := .seeded 0 }, {}) } = .ok course ∧
        let reached := course.run (.simulated false none) moves
        let stored := reached.state.store.rows course.session.streamText
        (∀ move ∈ moves, move.Spares SimStage.store course.session.streamText) ∧
          reached.session.phase = .failed ∧ stored.length = 1 ∧
          stored <+: reached.accepted ∧ reached.session.committedCount ≤ stored.length := by
  have ran : ∃ course moves,
      moves = [.add (filledRow 3 1), .order .dropAppendResponse, .add (filledRow 2 2)] ∧
        start (.simulated false none) "table" ⟨"Row", .empty⟩ (Config.withCeiling 4) (.seeded 0)
          { backend := ({ rates := FaultRates.none, random := .seeded 0 }, {}) } = .ok course ∧
        (course.run (.simulated false none) moves).session.phase = .failed ∧
        ((course.run (.simulated false none) moves).state.store.rows
          course.session.streamText).length = 1 := by
    refine ⟨_, _, rfl, rfl, ?_, ?_⟩
    · rfl
    · rfl
  obtain ⟨course, moves, planned, started, failed, written⟩ := ran
  have alone : ∀ move ∈ moves, move.Spares SimStage.store course.session.streamText := by
    rw [planned]
    simp only [List.forall_mem_cons]
    exact ⟨trivial, Move.order_spares _ _, trivial, by simp⟩
  obtain ⟨acknowledged, accepted, _⟩ := stored_prefix_accepted false none started moves alone
  exact ⟨course, moves, planned, started, alone, failed, written, accepted, acknowledged⟩

/-- A commit that succeeds has stored exactly the accepted rows, in their order, and has
told their number. A commit of an open session succeeds unless something is scripted, the
token is cancelled or a fault strikes during it. -/
theorem commit_exactly_once
    (started : start (.simulated faulty token) table schema config random stage = .ok course)
    (moves : List (Move SimStage))
    (alone : ∀ move ∈ moves, move.Spares SimStage.store course.session.streamText) :
    let environment := Environment.simulated faulty token
    let stream := course.session.streamText
    let reached := course.run environment moves
    let ended := reached.commit environment
    (∀ count, ended.1 = .ok count →
      ended.2.state.store.rows stream = reached.accepted ∧
        count = reached.accepted.length ∧ count = ended.2.session.committedCount ∧
        ended.2.state.store.isFinalized stream = true ∧
        ended.2.session.pending.toList = [] ∧ ended.2.session.pendingCount = 0 ∧
        ended.2.session.pendingBytes = 0 ∧ ended.2.session.phase = .committed) ∧
      (reached.session.phase = .open → reached.state.store.script = {} →
        environment.host.cancelled reached.state = false →
        ended.2.state.faults = reached.state.faults → ∃ count, ended.1 = .ok count) := by
  intro environment stream reached ended
  have serves := serves_recorded (serves_simulated faulty token)
  have steady := steady_recorded (steady_simulated faulty token)
  obtain ⟨consistent, record, found, account⟩ :=
    kept_run (serves_simulated faulty token) (kept_start (serves_simulated faulty token) started)
      moves alone
  have step := Session.commit_step environment.recorded reached.session
    (reached.requests, reached.state)
  constructor
  · intro count answered
    have answer : (reached.session.commit environment.recorded
        (reached.requests, reached.state)).1 = .ok count := answered
    by_cases isOpen : reached.session.phase = .open
    · have outcome := (step.outcome serves consistent
        ⟨record, found, account.inStep_of_open isOpen⟩).2
      rw [answer] at outcome
      obtain ⟨counted, after, stored, complete⟩ := outcome
      have totals := (consistent.commit step).totals_of_emptied complete.emptied
      exact ⟨(Store.rows_eq stored).trans complete.stored, counted,
        counted.trans complete.counted.symm, (Store.isFinalized_eq stored).trans complete.finalized,
        complete.emptied, totals.1, totals.2, complete.isCommitted⟩
    · rw [step.eq_of_closed isOpen] at answer
      simp at answer
  · intro isOpen unscripted going quiet
    exact step.ok_of_quiet serves steady consistent ⟨record, found, account.inStep_of_open isOpen⟩
      unscripted going quiet

/-- Two rows that do not fit into one append, and between them a row that fits into none. -/
theorem commit_exactly_once_of_overflow :
    ∃ course moves,
      moves = [.add (filledRow 3 1), .add (filledRow 5 2), .order (.skewAck 0),
          .add (filledRow 2 3)] ∧
        start (.simulated false none) "table" ⟨"Row", .empty⟩ (Config.withCeiling 4) (.seeded 0)
          { backend := ({ rates := FaultRates.none, random := .seeded 0 }, {}) } = .ok course ∧
        let reached := course.run (.simulated false none) moves
        let ended := reached.commit (.simulated false none)
        (∀ move ∈ moves, move.Spares SimStage.store course.session.streamText) ∧
          ended.1 = .ok 2 ∧
          ended.2.state.store.rows course.session.streamText = reached.accepted ∧
          2 = reached.accepted.length ∧ 2 = ended.2.session.committedCount ∧
          ended.2.state.store.isFinalized course.session.streamText = true := by
  have ran : ∃ course moves,
      moves = [.add (filledRow 3 1), .add (filledRow 5 2), .order (.skewAck 0),
          .add (filledRow 2 3)] ∧
        start (.simulated false none) "table" ⟨"Row", .empty⟩ (Config.withCeiling 4) (.seeded 0)
          { backend := ({ rates := FaultRates.none, random := .seeded 0 }, {}) } = .ok course ∧
        ((course.run (.simulated false none) moves).commit (.simulated false none)).1 = .ok 2 := by
    refine ⟨_, _, rfl, rfl, ?_⟩
    rfl
  obtain ⟨course, moves, planned, started, answered⟩ := ran
  have alone : ∀ move ∈ moves, move.Spares SimStage.store course.session.streamText := by
    rw [planned]
    simp only [List.forall_mem_cons]
    exact ⟨trivial, trivial, Move.order_spares _ _, trivial, by simp⟩
  obtain ⟨stored, counted, acknowledged, finalized, _⟩ :=
    (commit_exactly_once false none started moves alone).1 2 answered
  exact ⟨course, moves, planned, started, alone, answered, stored, counted, acknowledged,
    finalized⟩

end Simulated

end Course

end RowStream
