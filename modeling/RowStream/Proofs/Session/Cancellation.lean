import RowStream.Proofs.Session.Closure
import RowStream.Proofs.Session.Invariance

/-!
Contract: once its token is cancelled, a session sends nothing any more.

Owns:
- `Environment.CancelsForGood` and `Move.LeavesCancelled`, tokens that are not taken back;
- `Request.Quiet`, the requests that reach no stream;
- `Session.flush_interrupted`, `Session.conclude_interrupted` and the operations made of them;
- `Course.Silenced`, what a cancelled course came to.

Main statement: `Course.cancelled_for_good`.
-/

namespace RowStream

variable {σ : Type} {environment : Environment σ}

/-! ### Tokens -/

/-- A cancelled token stays cancelled, whatever is asked of the environment. -/
def Environment.CancelsForGood (environment : Environment σ) : Prop :=
  Keeps environment fun before after =>
    environment.host.cancelled before = true → environment.host.cancelled after = true

/-- What happens around the session does not take its token back. -/
def Move.LeavesCancelled (environment : Environment σ) : Move σ → Prop
  | .meanwhile change => ∀ state,
      environment.host.cancelled state = true → environment.host.cancelled (change state) = true
  | _ => True

theorem Environment.CancelsForGood.recorded (lasting : environment.CancelsForGood) :
    environment.recorded.CancelsForGood where
  refl _ := id
  trans first second := second ∘ first
  report event whole := lasting.report event whole.2
  sleep duration whole := lasting.sleep duration whole.2
  create parent kind whole := lasting.create parent kind whole.2
  bind stream schema whole := lasting.bind stream schema whole.2
  append appender batch offset whole := lasting.append appender batch offset whole.2
  close appender whole := lasting.close appender whole.2
  finalize stream whole := lasting.finalize stream whole.2

/-- No client of a stage's backend reaches the tokens of the stage. -/
theorem cancelsForGood_onStage (client : Client σ) (token : Option String) :
    (Environment.onStage client.onStage token).CancelsForGood where
  refl _ := id
  trans first second := second ∘ first
  report _ _ := id
  sleep _ _ := id
  create _ _ _ := id
  bind _ _ _ := id
  append _ _ _ _ := id
  close _ _ := id
  finalize _ _ := id

/-- A pause, or the release of a connection. -/
def Request.Quiet : Request → Prop
  | .sleep _ => True
  | .close _ => True
  | _ => False

/-! ### Operations of a cancelled session -/

namespace Session

variable {session : Session} {state : σ} {requests : List Request}

theorem flush_interrupted (environment : Environment σ) (session : Session)
    (cancelled : environment.host.cancelled state = true) :
    session.flush environment state =
      (.error (session.appendError .interrupted), session.fail,
        session.reportFailure environment .interrupted state) := by
  rw [flush, if_pos cancelled]
  rfl

theorem conclude_interrupted (environment : Environment σ) (session : Session)
    (cancelled : environment.host.cancelled (session.pause environment state) = true) :
    session.conclude environment state =
      (.error (.finalization session.streamText .interrupted), session.fail,
        environment.host.report (.finalizeInterrupted session.streamText)
          (session.pause environment state)) := by
  unfold pause at cancelled
  simp only [conclude, if_pos cancelled]
  rfl

/-- Opening a session asks for nothing, with whatever configuration. -/
theorem start_interrupted (environment : Environment σ) (table : String) (schema : Schema)
    (config : Config) (random : Random) (requests : List Request)
    (cancelled : environment.host.cancelled state = true) :
    ∃ error after, start environment.recorded table schema config random (requests, state) =
      (.error error, requests, after) := by
  have stopped : environment.recorded.host.cancelled (requests, state) = true := cancelled
  unfold start
  split
  · exact ⟨_, _, rfl⟩
  · simp only [Retry.run_of_cancelled _ _ _ _ stopped]
    exact ⟨_, _, rfl⟩

theorem add_interrupted (environment : Environment σ) (row : Row) (session : Session)
    (isOpen : session.phase = .open)
    (overflows : session.ceiling < session.pendingBytes + row.size)
    (fits : row.size ≤ session.ceiling) (cancelled : environment.host.cancelled state = true) :
    session.add environment row state =
      (.error (session.appendError .interrupted), session.fail,
        session.reportFailure environment .interrupted state) := by
  rw [add_of_overflow environment row session state isOpen overflows fits,
    flush_interrupted environment session cancelled]

theorem FlushStep.still {ended : Except SessionError Unit × Session × List Request × σ}
    (step : FlushStep environment.recorded session (requests, state) ended)
    (cancelled : environment.host.cancelled state = true) :
    ended.2.2.1 = requests ∧ ended.2.1.committedCount = session.committedCount := by
  cases step with
  | interrupted stopped => exact ⟨rfl, rfl⟩
  | unconnected closed => exact ⟨rfl, rfl⟩
  | rejected going connected sent judged =>
      exact absurd (going.symm.trans cancelled) Bool.false_ne_true
  | acknowledged going connected sent =>
      exact absurd (going.symm.trans cancelled) Bool.false_ne_true

theorem AddStep.still {row : Row}
    {ended : Except SessionError Unit × Session × List Request × σ}
    (step : AddStep environment.recorded row session (requests, state) ended)
    (cancelled : environment.host.cancelled state = true) :
    ended.2.2.1 = requests ∧ ended.2.1.committedCount = session.committedCount := by
  cases step with
  | closed past => exact ⟨rfl, rfl⟩
  | buffered isOpen fits => exact ⟨rfl, rfl⟩
  | tooLarge isOpen large => exact ⟨rfl, rfl⟩
  | stuck isOpen overflows fits flushed => exact flushed.still cancelled
  | flushed isOpen overflows fits flushed => exact flushed.still cancelled

/-- What is still answered to a row: only one that would have to wait for an append is lost. -/
theorem add_answer_of_cancelled (environment : Environment σ) (row : Row) (session : Session)
    (isOpen : session.phase = .open) (cancelled : environment.host.cancelled state = true) :
    let answer := (session.add environment row state).1
    (answer = .ok () ↔ session.pendingBytes + row.size ≤ session.ceiling) ∧
      (answer = .error (.rowTooLarge row.size session.ceiling) ↔ session.ceiling < row.size) ∧
      (answer = .error (session.appendError .interrupted) ↔
        session.ceiling < session.pendingBytes + row.size ∧ row.size ≤ session.ceiling) := by
  intro answer
  rcases Nat.lt_or_ge session.ceiling (session.pendingBytes + row.size) with overflows | fits
  · rcases Nat.lt_or_ge session.ceiling row.size with large | small
    · have answered : answer = .error (.rowTooLarge row.size session.ceiling) :=
        congrArg Prod.fst (add_of_large environment row session state isOpen large)
      rw [answered]
      simp [appendError]
      omega
    · have answered : answer = .error (session.appendError .interrupted) :=
        congrArg Prod.fst (add_interrupted environment row session isOpen overflows small cancelled)
      rw [answered]
      simp [appendError]
      omega
  · have answered : answer = .ok () :=
      congrArg Prod.fst (add_of_fits environment row session state isOpen fits)
    rw [answered]
    simp
    omega

/-- What a commit says when it is cancelled: that the buffer was not sent, or that there was
none and the stream was not finalized. -/
def interruption (session : Session) : SessionError :=
  if session.pending.isEmpty then .finalization session.streamText .interrupted
  else .appendFailed session.streamText session.nextOffset .interrupted

/-- Under a cancelled token a commit fails without an append or a finalization. -/
theorem commit_interrupted (lasting : environment.CancelsForGood) (session : Session)
    (requests : List Request) (isOpen : session.phase = .open)
    (cancelled : environment.host.cancelled state = true) :
    ∃ after, session.commit environment.recorded (requests, state) =
        (.error session.interruption, session.fail, after) ∧
      Request.Added Request.Quiet requests after.1 := by
  by_cases empty : session.pending.toList = []
  · have paused : environment.recorded.host.cancelled
        (session.pause environment.recorded (requests, state)) = true :=
      lasting.recorded.sleep _ _ cancelled
    have slept : Request.Added Request.Quiet requests
        (session.pause environment.recorded (requests, state)).1 := .one trivial requests
    refine ⟨environment.recorded.host.report (.finalizeInterrupted session.streamText)
      (session.pause environment.recorded (requests, state)), ?_, slept⟩
    rw [commit_of_unbuffered environment.recorded session _ isOpen empty,
      conclude_interrupted environment.recorded session paused, interruption,
      if_pos ((Batch.isEmpty_iff _).mpr empty)]
  · have buffered : ¬ session.pending.isEmpty = true :=
      fun none => empty ((Batch.isEmpty_iff _).mp none)
    have stopped : environment.recorded.host.cancelled (requests, state) = true := cancelled
    refine ⟨session.reportFailure environment.recorded .interrupted (requests, state), ?_,
      .refl requests⟩
    rw [commit_of_buffered environment.recorded session _ isOpen empty,
      flush_interrupted environment.recorded session stopped, interruption, if_neg buffered]
    rfl

end Session

/-! ### Whole courses -/

namespace Course

variable {course before : Course σ}

/-- A course whose token is cancelled, as it went on since: nothing was sent, and no more rows
were acknowledged. -/
structure Silenced (environment : Environment σ) (before after : Course σ) : Prop where
  cancelled : environment.host.cancelled after.state = true
  quiet : Request.Added Request.Quiet before.requests after.requests
  unmoved : after.session.committedCount = before.session.committedCount

theorem silenced_add (lasting : environment.CancelsForGood) (row : Row)
    (silenced : Silenced environment before course) :
    Silenced environment before (course.add environment row).2 := by
  have step := Session.add_step environment.recorded row course.session
    (course.requests, course.state)
  obtain ⟨asked, unmoved⟩ := step.still silenced.cancelled
  refine ⟨step.kept lasting.recorded silenced.cancelled, ?_, unmoved.trans silenced.unmoved⟩
  show Request.Added Request.Quiet before.requests
    (course.session.add environment.recorded row (course.requests, course.state)).2.2.1
  rw [asked]
  exact silenced.quiet

theorem silenced_commit (lasting : environment.CancelsForGood)
    (silenced : Silenced environment before course) :
    Silenced environment before (course.commit environment).2 := by
  have step := Session.commit_step environment.recorded course.session
    (course.requests, course.state)
  have cancelled := step.kept lasting.recorded silenced.cancelled
  by_cases isOpen : course.session.phase = .open
  · obtain ⟨after, ended, asked⟩ := Session.commit_interrupted lasting course.session
      course.requests isOpen silenced.cancelled
    rw [ended] at cancelled
    rw [commit, ended]
    exact ⟨cancelled, silenced.quiet.trans asked, silenced.unmoved⟩
  · rw [commit_of_closed environment isOpen]
    exact ⟨silenced.cancelled, silenced.quiet, silenced.unmoved⟩

theorem silenced_abort (lasting : environment.CancelsForGood)
    (silenced : Silenced environment before course) :
    Silenced environment before (course.abort environment) := by
  have step := Session.abort_step environment.recorded course.session
    (course.requests, course.state)
  have released : Request.Added Request.Quiet course.requests
      (course.abort environment).requests :=
    ⟨_, step.requests_eq, by simp [Request.Quiet]⟩
  refine ⟨step.kept lasting.recorded silenced.cancelled, silenced.quiet.trans released, ?_⟩
  rw [abort_session]
  exact silenced.unmoved

theorem silenced_perform (lasting : environment.CancelsForGood)
    (silenced : Silenced environment before course) (move : Move σ)
    (leaves : move.LeavesCancelled environment) :
    Silenced environment before (course.perform environment move) := by
  cases move with
  | add row => exact silenced_add lasting row silenced
  | commit => exact silenced_commit lasting silenced
  | abort => exact silenced_abort lasting silenced
  | meanwhile change =>
      exact ⟨leaves course.state silenced.cancelled, silenced.quiet, silenced.unmoved⟩

/-- From the cancellation on nothing more is sent, and nothing more is counted as committed. -/
theorem silenced_run (lasting : environment.CancelsForGood)
    (cancelled : environment.host.cancelled course.state = true) (moves : List (Move σ))
    (leave : ∀ move ∈ moves, move.LeavesCancelled environment) :
    Silenced environment course (course.run environment moves) :=
  run_induction (Silenced environment course) (fun move => move.LeavesCancelled environment)
    (fun _ move silenced leaves => silenced_perform lasting silenced move leaves) moves leave course
    ⟨cancelled, .refl course.requests, rfl⟩

/-- Whatever is done after the token was cancelled: only pauses and releases are asked for, no
further row counts as acknowledged, and no session is opened. As long as the session is open,
a row is taken exactly if it fits beside the buffer, and a commit fails for good. -/
theorem cancelled_for_good (lasting : environment.CancelsForGood)
    (cancelled : environment.host.cancelled course.state = true) (moves : List (Move σ))
    (leave : ∀ move ∈ moves, move.LeavesCancelled environment) :
    let reached := course.run environment moves
    let session := reached.session
    let offset := UInt64.ofNat session.committedCount
    environment.host.cancelled reached.state = true ∧
      Request.Added Request.Quiet course.requests reached.requests ∧
      session.committedCount = course.session.committedCount ∧
      (∀ table schema config random requests now, environment.host.cancelled now = true →
        ∃ error after,
          Session.start environment.recorded table schema config random (requests, now) =
            (.error error, requests, after)) ∧
      (session.phase = .open →
        (∀ row : Row,
          let answer := (reached.add environment row).1
          (answer = .ok () ↔ session.pendingBytes + row.size ≤ session.ceiling) ∧
            (answer = .error (.rowTooLarge row.size session.ceiling) ↔
              session.ceiling < row.size) ∧
            (answer = .error (.appendFailed session.streamText offset .interrupted) ↔
              session.ceiling < session.pendingBytes + row.size ∧
                row.size ≤ session.ceiling)) ∧
          let (answer, ended) := reached.commit environment
          ended.session.phase = .failed ∧
            (session.pending.toList ≠ [] →
              answer = .error (.appendFailed session.streamText offset .interrupted)) ∧
            (session.pending.toList = [] →
              answer = .error (.finalization session.streamText .interrupted))) := by
  intro reached session offset
  obtain ⟨still, quiet, unmoved⟩ := silenced_run lasting cancelled moves leave
  refine ⟨still, quiet, unmoved, ?_, ?_⟩
  · intro table schema config random requests now
    exact Session.start_interrupted environment table schema config random requests
  · intro isOpen
    have stopped : environment.recorded.host.cancelled (reached.requests, reached.state) = true :=
      still
    obtain ⟨after, ended, _⟩ :=
      Session.commit_interrupted lasting session reached.requests isOpen still
    refine ⟨fun row =>
      Session.add_answer_of_cancelled environment.recorded row session isOpen stopped, ?_⟩
    rw [commit, ended]
    refine ⟨rfl, ?_, ?_⟩
    · intro waiting
      have buffered : ¬ session.pending.isEmpty = true :=
        fun none => waiting ((Batch.isEmpty_iff _).mp none)
      exact congrArg Except.error (if_neg buffered)
    · intro empty
      exact congrArg Except.error (if_pos ((Batch.isEmpty_iff _).mpr empty))

/-- Cancelled with three bytes buffered, of at most four: one more byte still fits, and is as
little sent as the others. -/
theorem cancelled_with_rows_buffered :
    ∃ course moves,
      moves = [.add (filledRow 5 1), .add (filledRow 1 1)] ∧
        let environment := Environment.simulated false (some "main")
        (∃ opened,
          start environment "table" ⟨"Row", .empty⟩ (Config.withCeiling 4) (.seeded 0)
              { backend := ({ rates := FaultRates.none, random := .seeded 0 }, {}) } =
            .ok opened ∧
          course = opened.run environment
            [.add (filledRow 3 1), .cancel "main"]) ∧
        environment.CancelsForGood ∧ environment.host.cancelled course.state = true ∧
        (∀ move ∈ moves, move.LeavesCancelled environment) ∧
        let reached := course.run environment moves
        let stream := reached.session.streamText
        reached.session.phase = .open ∧ reached.session.pending.length = 2 ∧
          Request.Added Request.Quiet course.requests reached.requests ∧
          (reached.add environment (filledRow 1 1)).1 =
            .error (.appendFailed stream 0 .interrupted) ∧
          (reached.commit environment).1 = .error (.appendFailed stream 0 .interrupted) ∧
          (reached.commit environment).2.session.phase = .failed := by
  have ran : ∃ course moves,
      moves = [.add (filledRow 5 1), .add (filledRow 1 1)] ∧
        let environment := Environment.simulated false (some "main")
        (∃ opened,
          start environment "table" ⟨"Row", .empty⟩ (Config.withCeiling 4) (.seeded 0)
              { backend := ({ rates := FaultRates.none, random := .seeded 0 }, {}) } =
            .ok opened ∧
          course = opened.run environment
            [.add (filledRow 3 1), .cancel "main"]) ∧
        environment.host.cancelled course.state = true ∧
        let reached := course.run environment moves
        let session := reached.session
        session.phase = .open ∧ session.pending.length = 2 ∧ session.pendingBytes = 4 ∧
          session.ceiling = 4 ∧ session.committedCount = 0 := by
    refine ⟨_, _, rfl, ⟨_, rfl, rfl⟩, rfl, rfl, rfl, rfl, rfl, rfl⟩
  obtain ⟨course, moves, planned, opened, cancelled, isOpen, rows, bytes, ceiling, first⟩ := ran
  let environment := Environment.simulated false (some "main")
  have lasting : environment.CancelsForGood := cancelsForGood_onStage _ (some "main")
  have leave : ∀ move ∈ moves, move.LeavesCancelled environment := by
    rw [planned]
    simp [Move.LeavesCancelled]
  obtain ⟨_, quiet, _, _, answers⟩ := cancelled_for_good lasting cancelled moves leave
  obtain ⟨adds, failed, unsent, _⟩ := answers isOpen
  have waiting : (course.run environment moves).session.pending.toList ≠ [] := by
    intro empty
    rw [← Batch.length_toList, empty] at rows
    simp at rows
  have lost := (adds (filledRow 1 1)).2.2.mpr (by rw [bytes, ceiling]; decide)
  have failing := unsent waiting
  rw [first] at lost failing
  exact ⟨course, moves, planned, opened, lasting, cancelled, leave, isOpen, rows, quiet, lost,
    failing, failed⟩

end Course

end RowStream
