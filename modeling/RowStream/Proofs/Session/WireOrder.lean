import RowStream.Proofs.Session.ExactlyOnce
import RowStream.Proofs.Session.Naming
import RowStream.Proofs.Session.Transcript

/-!
Contract: the order in which a session makes its requests, seen from the service.

Owns:
- `Move.Unheard`, what happens around a session without a request for its stream;
- `Course.Orderly`, the invariant of a whole course.

Main statement: `Course.calls_in_order`, the log of the stream of a session that was let go of.
-/

namespace RowStream

variable {σ : Type} {environment : Environment σ} {store : σ → Store} {faults : σ → Nat}
  {stream : String} {before : List Call}

namespace Move

/-- Calls of the session itself, and anything else without a request for its stream. -/
def Unheard (store : σ → Store) (stream : String) : Move σ → Prop
  | .meanwhile change =>
      ∀ state, (store (change state)).callsOn stream = (store state).callsOn stream
  | _ => True

theorem order_unheard (mishap : Mishap) (stream : String) :
    (order mishap).Unheard SimStage.store stream := fun _ => rfl

end Move

/-! ### Opening -/

theorem Session.StartStep.sending (serves : Serves environment store faults) {table : String}
    {schema : Schema} {config : Config} {random : Random} {state : σ}
    {ended : Except SessionError Session × List Request × σ}
    (step : StartStep environment.recorded table schema config random ([], state) ended) :
    match ended.1 with
    | .ok session =>
        Sending store session.streamText ((store state).callsOn session.streamText) session ended.2
    | .error _ => True := by
  have unfinalized : ∀ other, .finalize other ∉ ended.2.1 := fun other =>
    (step.requests_added (by simp) (by simp) (by simp)).not_mem (by simp)
  cases step with
  | invalid flawed => trivial
  | notCreated valid gaveUp => trivial
  | notBound valid answered bound => trivial
  | @opened created appender after valid answered bound =>
      have recorded := serves_recorded serves
      have attempts := recorded.create_run_calls created.value.name config.retry
        config.retryableCodes "create_write_stream" table .pending random ([], state)
      have connected := (recorded.bind_still bound).2.1 appender rfl
      have bindCalls := recorded.bind_calls bound
      refine ⟨rfl, rfl, congrArg some connected, ⟨[], ?_, trivial, rfl⟩, unfinalized⟩
      refine (serves.report_calls created.value.name _ after.2).trans ?_
      refine bindCalls.trans ?_
      exact congrArg (· ++ [Call.bind created.value.name]) attempts

namespace Course

variable {course : Course σ}

/-- Whatever was sent for the session is in order, and nothing follows unless it is open. -/
def Orderly (store : σ → Store) (stream : String) (before : List Call) (course : Course σ) :
    Prop :=
  Session.Sending store stream before course.session (course.requests, course.state) ∨
    Session.Ended store stream before course.accepted course.session
      (course.requests, course.state)

theorem Orderly.held (orderly : course.Orderly store stream before) (appender : Appender)
    (present : course.session.appender = some appender) : appender = { stream := stream } := by
  rcases orderly with sending | ended
  · exact Option.some.inj (present.symm.trans sending.connected)
  · exact ended.held appender present

theorem Orderly.sent (orderly : course.Orderly store stream before) :
    Session.Sent store stream before course.accepted course.session
      course.session.appender.isSome (course.requests, course.state) := by
  rcases orderly with sending | ended
  · have sent := sending.sent course.accepted
    rw [sending.connected]
    exact sent
  · exact ended.sent

theorem Orderly.sending_of_open (orderly : course.Orderly store stream before)
    (isOpen : course.session.phase = .open) :
    Session.Sending store stream before course.session (course.requests, course.state) := by
  rcases orderly with sending | ended
  · exact sending
  · exact absurd isOpen ended.past

theorem orderly_add (serves : Serves environment store faults) (kept : course.Kept store stream)
    (orderly : course.Orderly store stream before) (row : Row) :
    (course.add environment row).2.Orderly store stream before := by
  by_cases isOpen : course.session.phase = .open
  · have step := Session.add_step environment.recorded row course.session
      (course.requests, course.state)
    unfold add
    cases ended : course.session.add environment.recorded row (course.requests, course.state) with
    | mk result rest =>
      rw [ended] at step
      rcases step.sending serves course.accepted kept.1.count_eq
          (orderly.sending_of_open isOpen) with sending | ⟨⟨error, failed⟩, ended⟩
      · exact Or.inl sending
      · simp only at failed
        rw [failed]
        exact Or.inr ended
  · rw [add_of_closed environment row isOpen]
    exact orderly

theorem orderly_commit (serves : Serves environment store faults)
    (kept : course.Kept store stream) (orderly : course.Orderly store stream before) :
    (course.commit environment).2.Orderly store stream before := by
  obtain ⟨consistent, record, found, account⟩ := kept
  by_cases isOpen : course.session.phase = .open
  · exact Or.inr ((Session.commit_step environment.recorded course.session
      (course.requests, course.state)).ended serves consistent
        ⟨record, found, account.inStep_of_open isOpen⟩ (orderly.sending_of_open isOpen))
  · rw [commit_of_closed environment isOpen]
    exact orderly

theorem orderly_perform (serves : Serves environment store faults)
    (kept : course.Kept store stream) (orderly : course.Orderly store stream before)
    (move : Move σ) (unheard : move.Unheard store stream) :
    (course.perform environment move).Orderly store stream before := by
  cases move with
  | add row => exact orderly_add serves kept orderly row
  | commit => exact orderly_commit serves kept orderly
  | abort =>
      exact Or.inr ((Session.abort_step environment.recorded course.session
        (course.requests, course.state)).ended serves orderly.held orderly.sent)
  | meanwhile change =>
      have same := unheard course.state
      rcases orderly with sending | ended
      · obtain ⟨appends, entries, ordered⟩ := sending.logged
        exact Or.inl ⟨sending.isOpen, sending.named, sending.connected,
          ⟨appends, same.trans entries, ordered⟩, sending.unfinalized⟩
      · obtain ⟨appends, finalizes, entries, ordered⟩ := ended.sent.logged
        exact Or.inr ⟨ended.past, ended.held,
          ⟨⟨appends, finalizes, same.trans entries, ordered⟩, ended.sent.settled⟩⟩

theorem orderly_start (serves : Serves environment store faults) {table : String}
    {schema : Schema} {config : Config} {random : Random} {state : σ}
    (started : start environment table schema config random state = .ok course) :
    course.Orderly store course.session.streamText
      ((store state).callsOn course.session.streamText) :=
  Or.inl ((step_of_start started).sending serves)

/-- The calls on the stream are in order after any moves that leave it to its session. -/
theorem orderly_run (serves : Serves environment store faults) (kept : course.Kept store stream)
    (orderly : course.Orderly store stream before) (moves : List (Move σ))
    (alone : ∀ move ∈ moves, move.Spares store stream ∧ move.Unheard store stream) :
    (course.run environment moves).Orderly store stream before :=
  (run_induction (fun reached => reached.Kept store stream ∧ reached.Orderly store stream before)
    (fun move => move.Spares store stream ∧ move.Unheard store stream)
    (fun _ move ⟨kept, orderly⟩ ⟨spares, unheard⟩ =>
      ⟨kept_perform serves kept move spares, orderly_perform serves kept orderly move unheard⟩)
    moves alone course ⟨kept, orderly⟩).2

/-! ### Requests of a whole course -/

theorem arrived_perform (serves : Serves environment store faults) (course : Course σ)
    (move : Move σ) (unheard : move.Unheard store stream) :
    Arrived store stream (course.requests, course.state)
      ((course.perform environment move).requests, (course.perform environment move).state) := by
  have keeps := arrived_keeps serves stream
  cases move with
  | add row => exact (Session.add_step environment.recorded row _ _).kept keeps
  | commit => exact (Session.commit_step environment.recorded _ _).kept keeps
  | abort => exact (Session.abort_step environment.recorded _ _).kept keeps
  | meanwhile change =>
      have unlogged := @Arrived.of_unlogged _ store stream (course.requests, course.state) _ []
        (unheard course.state)
      rw [List.append_nil] at unlogged
      exact unlogged

/-- Over all moves, what the log gains on a stream was asked for, in this order. -/
theorem arrived_run (serves : Serves environment store faults) (course : Course σ)
    (moves : List (Move σ)) (heard : ∀ move ∈ moves, move.Unheard store stream) :
    Arrived store stream (course.requests, course.state)
      ((course.run environment moves).requests, (course.run environment moves).state) :=
  run_induction
    (fun reached =>
      Arrived store stream (course.requests, course.state) (reached.requests, reached.state))
    (Move.Unheard store stream)
    (fun reached move arrived unheard => arrived.trans (arrived_perform serves reached move unheard))
    moves heard course (.refl _)

theorem arrived_start (serves : Serves environment store faults) (stream : String)
    {table : String} {schema : Schema} {config : Config} {random : Random} {state : σ}
    (started : start environment table schema config random state = .ok course) :
    Arrived store stream ([], state) (course.requests, course.state) :=
  (step_of_start started).kept (arrived_keeps serves stream)

/-! ### The end -/

section Simulated

variable (faulty : Bool) (cancelled : SimStage → Bool) {table : String} {schema : Schema}
  {config : Config} {random : Random} {stage : SimStage} {course : Course SimStage}

/-- In whatever order things happen until the session is let go of: the log of its stream, which
is the next one of the service, continues with one connection, appends of which each starts
where the one before it ends, requests to finalize within the budget, and one release. Every
entry comes from a request, in the order of these. If the stream was to be finalized at all,
every accepted row had been acknowledged, and the pause stands behind all appends and before
all requests to finalize. -/
theorem calls_in_order
    (started : start ((Environment.simulated faulty none).interruptedBy cancelled) table schema
      config random stage = .ok course)
    (moves : List (Move SimStage))
    (alone : ∀ move ∈ moves, move.Spares SimStage.store course.session.streamText ∧
      move.Unheard SimStage.store course.session.streamText) :
    let environment := (Environment.simulated faulty none).interruptedBy cancelled
    let stream := course.session.streamText
    let reached := course.run environment moves
    let dropped := reached.drop environment
    stream = Store.streamName table (stage.store.created + 1) ∧
      ∃ appends finalizes,
        let calls := .bind stream ::
          (appends.map (fun (offset, rows) => Call.append stream offset rows) ++
            (List.replicate finalizes (.finalize stream) ++ [.close stream]))
        dropped.2.store.callsOn stream = stage.store.callsOn stream ++ calls ∧
          Contiguous 0 appends ∧
          (0 < config.retry.maxAttempts.toNat → finalizes ≤ config.retry.maxAttempts.toNat) ∧
          calls.Sublist (dropped.1.filterMap Request.call?) ∧
          ((∃ other, .finalize other ∈ dropped.1) →
            reached.session.committedCount = reached.accepted.length ∧
              Request.PausedBetween config.finalizeQuiescence dropped.1) := by
  intro environment stream reached dropped
  have serves : Serves environment SimStage.store SimStage.faults :=
    serves_interruptedBy (serves_simulated faulty none) cancelled
  have orderly : reached.Orderly SimStage.store stream (stage.store.callsOn stream) :=
    orderly_run serves (kept_start serves started) (orderly_start serves started) moves alone
  have settings : reached.session.config = config := by
    obtain ⟨⟨_, _, _, opened⟩, _⟩ := start_session started
    rw [config_run course moves, opened]
    rfl
  have sent : Session.Sent SimStage.store stream (stage.store.callsOn stream) reached.accepted
      reached.session false dropped := orderly.sent.release serves orderly.held
  have arrived : Arrived SimStage.store stream ([], stage) dropped :=
    ((arrived_start serves stream started).trans
      (arrived_run serves course moves fun move member => (alone move member).2)).trans
        (Session.release_kept (arrived_keeps serves stream) reached.session
          (reached.requests, reached.state))
  obtain ⟨appends, finalizes, entries, contiguous, allowed⟩ := sent.logged
  obtain ⟨requests, logged, made, heard, sublist⟩ := arrived
  have same : logged = Session.transcript stream appends finalizes false :=
    List.append_cancel_left (heard.symm.trans entries)
  rw [List.nil_append] at made
  rw [same, ← made] at sublist
  rw [settings] at allowed
  refine ⟨(start_name serves started).1, appends, finalizes, entries, contiguous, allowed, sublist,
    ?_⟩
  rintro ⟨other, asked⟩
  rcases sent.settled with unasked | settled
  · exact absurd asked (unasked other)
  · rw [settings] at settled
    exact settled

/-- Two appends, and a finalization that is refused for good. The connection is released when
the session is let go of. -/
theorem calls_in_order_of_refusal :
    ∃ course moves,
      moves = [.add (filledRow 3 1), .add (filledRow 2 2),
          .order (.failFinalizes [.invalidArgument "refused"]), .commit] ∧
        start ((Environment.simulated false none).interruptedBy fun _ => false) "table"
          ⟨"Row", .empty⟩ (Config.withCeiling 4) (.seeded 0)
          { backend := ({ rates := FaultRates.none, random := .seeded 0 }, {}) } = .ok course ∧
        let environment := (Environment.simulated false none).interruptedBy fun _ => false
        let stream := course.session.streamText
        let reached := course.run environment moves
        let dropped := reached.drop environment
        (∀ move ∈ moves, move.Spares SimStage.store stream ∧
            move.Unheard SimStage.store stream) ∧
          stream = Store.streamName "table" 1 ∧ reached.session.phase = .failed ∧
          dropped.2.store.callsOn stream =
            [.bind stream, .append stream 0 1, .append stream 1 1, .finalize stream,
              .close stream] ∧
          reached.session.committedCount = reached.accepted.length ∧
          Request.PausedBetween (Config.withCeiling 4).finalizeQuiescence dropped.1 := by
  have ran : ∃ course moves,
      moves = [.add (filledRow 3 1), .add (filledRow 2 2),
          .order (.failFinalizes [.invalidArgument "refused"]), .commit] ∧
        start ((Environment.simulated false none).interruptedBy fun _ => false) "table"
          ⟨"Row", .empty⟩ (Config.withCeiling 4) (.seeded 0)
          { backend := ({ rates := FaultRates.none, random := .seeded 0 }, {}) } = .ok course ∧
        let environment := (Environment.simulated false none).interruptedBy fun _ => false
        let stream := course.session.streamText
        let reached := course.run environment moves
        let dropped := reached.drop environment
        reached.session.phase = .failed ∧ .finalize stream ∈ dropped.1 ∧
          dropped.2.store.callsOn stream =
            [.bind stream, .append stream 0 1, .append stream 1 1, .finalize stream,
              .close stream] := by
    refine ⟨_, _, rfl, rfl, rfl, ?_, rfl⟩
    exact .tail _ (.tail _ (.tail _ (.tail _ (.tail _ (.head _)))))
  obtain ⟨course, moves, planned, started, failed, asked, logged⟩ := ran
  have alone : ∀ move ∈ moves, move.Spares SimStage.store course.session.streamText ∧
      move.Unheard SimStage.store course.session.streamText := by
    rw [planned]
    simp only [List.forall_mem_cons]
    exact ⟨⟨trivial, trivial⟩, ⟨trivial, trivial⟩,
      ⟨Move.order_spares _ _, Move.order_unheard _ _⟩, ⟨trivial, trivial⟩, by simp⟩
  obtain ⟨named, _, _, _, _, _, _, settled⟩ :=
    calls_in_order false (fun _ => false) started moves alone
  obtain ⟨complete, paused⟩ := settled ⟨_, asked⟩
  exact ⟨course, moves, planned, started, alone, named, failed, logged, complete, paused⟩

end Simulated

end Course

end RowStream
