import RowStream.Proofs.Client.Recorded
import RowStream.Proofs.Retry.Induction
import RowStream.Proofs.Session.Steps

/-!
Contract: a session from its opening on, whatever is done with it.

Owns:
- `Move`, one thing that happens to a session or around it;
- `Course`, a session with the rows it accepted, the answers to its commits and the
  requests it made;
- `Course.run`, any number of moves in any order, and `Course.run_induction`;
- `Course.drop`, the end of a course.

Main statements: `Course.committedCount_le_perform`, the number of acknowledged rows never
falls, and `Course.append_offsets_perform`, every append of a move claims the offset at
which the acknowledged rows end.
-/

namespace RowStream

variable {σ : Type}

/-- What happens next: the owner of the session calls an operation, or something else
changes the state around the session. -/
inductive Move (σ : Type) where
  | add (row : Row)
  | commit
  | abort
  | meanwhile (change : σ → σ)

structure Course (σ : Type) where
  session : Session
  state : σ
  /-- The rows whose addition succeeded, in their order. -/
  accepted : List Row := []
  /-- What the commits answered, in their order. -/
  commits : List (Except SessionError Nat) := []
  requests : List Request := []

namespace Course

def accept (row : Row) (accepted : List Row) : Except SessionError Unit → List Row
  | .ok () => accepted ++ [row]
  | .error _ => accepted

def start (environment : Environment σ) (table : String) (schema : Schema) (config : Config)
    (random : Random) (state : σ) : Except SessionError (Course σ) :=
  match Session.start environment.recorded table schema config random ([], state) with
  | (.error error, _) => .error error
  | (.ok session, requests, state) =>
      .ok { session := session, state := state, requests := requests }

/-- A course begins where opening its session ended. -/
theorem start_eq {environment : Environment σ} {table : String} {schema : Schema}
    {config : Config} {random : Random} {state : σ} {course : Course σ}
    (started : start environment table schema config random state = .ok course) :
    Session.start environment.recorded table schema config random ([], state) =
        (.ok course.session, course.requests, course.state) ∧
      course.accepted = [] ∧ course.commits = [] := by
  unfold start at started
  cases opened : Session.start environment.recorded table schema config random ([], state) with
  | mk result rest =>
    rw [opened] at started
    cases result with
    | error error => exact absurd started (by simp)
    | ok session =>
        rw [← Except.ok.inj started]
        exact ⟨rfl, rfl, rfl⟩

theorem step_of_start {environment : Environment σ} {table : String} {schema : Schema}
    {config : Config} {random : Random} {state : σ} {course : Course σ}
    (started : start environment table schema config random state = .ok course) :
    Session.StartStep environment.recorded table schema config random ([], state)
      (.ok course.session, course.requests, course.state) := by
  have step := Session.start_step environment.recorded table schema config random ([], state)
  rw [(start_eq started).1] at step
  exact step

theorem start_session {environment : Environment σ} {table : String} {schema : Schema}
    {config : Config} {random : Random} {state : σ} {course : Course σ}
    (started : start environment table schema config random state = .ok course) :
    (∃ appender created later,
      course.session = Session.fresh table schema config appender created later) ∧
      course.accepted = [] ∧ course.commits = [] :=
  ⟨(step_of_start started).session_eq rfl, (start_eq started).2⟩

def add (environment : Environment σ) (row : Row) (course : Course σ) :
    Except SessionError Unit × Course σ :=
  let (result, session, requests, state) :=
    course.session.add environment.recorded row (course.requests, course.state)
  (result,
    { course with
      session := session
      state := state
      accepted := accept row course.accepted result
      requests := requests })

def commit (environment : Environment σ) (course : Course σ) :
    Except SessionError Nat × Course σ :=
  let (result, session, requests, state) :=
    course.session.commit environment.recorded (course.requests, course.state)
  (result,
    { course with
      session := session
      state := state
      commits := course.commits ++ [result]
      requests := requests })

/-- A session that is not open refuses a row, and nothing else comes of it. -/
theorem add_of_closed (environment : Environment σ) (row : Row) {course : Course σ}
    (past : course.session.phase ≠ .open) :
    course.add environment row = (.error (.closed course.session.phase), course) := by
  have step := Session.add_step environment.recorded row course.session
    (course.requests, course.state)
  rw [add, step.eq_of_closed past]
  rfl

/-- A session that is not open refuses to commit, and nothing comes of it but this answer. -/
theorem commit_of_closed (environment : Environment σ) {course : Course σ}
    (past : course.session.phase ≠ .open) :
    course.commit environment =
      (.error (.closed course.session.phase),
        { course with commits := course.commits ++ [.error (.closed course.session.phase)] }) := by
  have step := Session.commit_step environment.recorded course.session
    (course.requests, course.state)
  rw [commit, step.eq_of_closed past]

def abort (environment : Environment σ) (course : Course σ) : Course σ :=
  let (session, requests, state) :=
    course.session.abort environment.recorded (course.requests, course.state)
  { course with session := session, state := state, requests := requests }

def perform (environment : Environment σ) (course : Course σ) : Move σ → Course σ
  | .add row => (course.add environment row).2
  | .commit => (course.commit environment).2
  | .abort => course.abort environment
  | .meanwhile change => { course with state := change course.state }

def run (environment : Environment σ) (moves : List (Move σ)) (course : Course σ) :
    Course σ :=
  moves.foldl (perform environment) course

/-- What is left of a course once its session was let go of: the requests made on its behalf
and the state around it. -/
def drop (environment : Environment σ) (course : Course σ) : List Request × σ :=
  course.session.release environment.recorded (course.requests, course.state)

/-- What holds of a course and survives every admitted move holds after all of them. -/
theorem run_induction {environment : Environment σ} (Holds : Course σ → Prop)
    (Admitted : Move σ → Prop)
    (step : ∀ course move, Holds course → Admitted move →
      Holds (course.perform environment move))
    (moves : List (Move σ)) (admitted : ∀ move ∈ moves, Admitted move) (course : Course σ)
    (holds : Holds course) : Holds (course.run environment moves) := by
  induction moves generalizing course with
  | nil => exact holds
  | cons move rest inductionHypothesis =>
      exact inductionHypothesis (fun later member => admitted later (by simp [member]))
        (course.perform environment move) (step course move holds (admitted move (by simp)))

end Course

/-! ### Acknowledged rows -/

namespace Session

variable {environment : Environment σ} {session : Session} {state : σ}

theorem FlushStep.committedCount_le {ended : Except SessionError Unit × Session × σ}
    (step : FlushStep environment session state ended) :
    session.committedCount ≤ ended.2.1.committedCount := by
  cases step with
  | interrupted cancelled => exact Nat.le_refl _
  | unconnected closed => exact Nat.le_refl _
  | rejected going connected sent judged => exact Nat.le_refl _
  | acknowledged going connected sent => exact Nat.le_add_right _ _

theorem ConcludeStep.committedCount_eq {ended : Except SessionError Nat × Session × σ}
    (step : ConcludeStep environment session state ended) :
    ended.2.1.committedCount = session.committedCount := by
  cases step <;> rfl

theorem AddStep.committedCount_le {row : Row} {ended : Except SessionError Unit × Session × σ}
    (step : AddStep environment row session state ended) :
    session.committedCount ≤ ended.2.1.committedCount := by
  cases step with
  | closed past => exact Nat.le_refl _
  | buffered isOpen fits => exact Nat.le_refl _
  | tooLarge isOpen large => exact Nat.le_refl _
  | stuck isOpen overflows fits flushed => exact flushed.committedCount_le
  | flushed isOpen overflows fits flushed => exact flushed.committedCount_le

theorem CommitStep.committedCount_le {ended : Except SessionError Nat × Session × σ}
    (step : CommitStep environment session state ended) :
    session.committedCount ≤ ended.2.1.committedCount := by
  cases step with
  | closed past => exact Nat.le_refl _
  | unbuffered isOpen empty concluded => exact Nat.le_of_eq concluded.committedCount_eq.symm
  | stuck isOpen waiting flushed => exact flushed.committedCount_le
  | flushed isOpen waiting flushed concluded =>
      exact Nat.le_trans flushed.committedCount_le (Nat.le_of_eq concluded.committedCount_eq.symm)

end Session

theorem Course.committedCount_le_perform (environment : Environment σ) (course : Course σ)
    (move : Move σ) :
    course.session.committedCount ≤ (course.perform environment move).session.committedCount := by
  cases move with
  | add row => exact (Session.add_step environment.recorded row _ _).committedCount_le
  | commit => exact (Session.commit_step environment.recorded _ _).committedCount_le
  | abort =>
      have aborted := (Session.abort_step environment.recorded course.session
        (course.requests, course.state)).session_eq
      exact Nat.le_of_eq (congrArg Session.committedCount aborted).symm
  | meanwhile change => exact Nat.le_refl _

/-! ### Settings -/

namespace Course

variable {environment : Environment σ}

/-- No move changes the configuration. -/
theorem config_perform (course : Course σ) (move : Move σ) :
    (course.perform environment move).session.config = course.session.config := by
  cases move with
  | add row => exact (Session.add_step environment.recorded row _ _).config_eq
  | commit => exact (Session.commit_step environment.recorded _ _).config_eq
  | abort =>
      have aborted := (Session.abort_step environment.recorded course.session
        (course.requests, course.state)).session_eq
      exact (congrArg Session.config aborted).trans rfl
  | meanwhile change => rfl

theorem config_run (course : Course σ) (moves : List (Move σ)) :
    (course.run environment moves).session.config = course.session.config :=
  run_induction (fun reached => reached.session.config = course.session.config) (fun _ => True)
    (fun reached move same _ => (config_perform reached move).trans same) moves
    (fun _ _ => trivial) course rfl

end Course

/-! ### Requests -/

/-- An append request claims this offset; requests of other kinds claim none. -/
def Request.ClaimsAt (offset : UInt64) : Request → Prop
  | .append _ _ claimed => claimed = offset
  | _ => True

namespace Session

variable {environment : Environment σ} {session : Session} {requests : List Request} {state : σ}
  {Kind : Request → Prop}

theorem FlushStep.requests_added {ended : Except SessionError Unit × Session × List Request × σ}
    (step : FlushStep environment.recorded session (requests, state) ended)
    (kind : ∀ appender, Kind (.append appender session.pending session.nextOffset)) :
    Request.Added Kind requests ended.2.2.1 := by
  cases step with
  | interrupted cancelled => exact .refl requests
  | unconnected closed => exact .refl requests
  | @rejected appender reply cause after going connected sent judged =>
      have noted : after.1 = requests ++ [.append appender session.pending session.nextOffset] :=
        Environment.append_noted sent
      change Request.Added Kind requests after.1
      rw [noted]
      exact .one (kind appender) requests
  | @acknowledged appender after going connected sent =>
      have noted : after.1 = requests ++ [.append appender session.pending session.nextOffset] :=
        Environment.append_noted sent
      change Request.Added Kind requests after.1
      rw [noted]
      exact .one (kind appender) requests

/-- A connection is released once, if there is one. -/
theorem CloseStep.requests_eq {whole after : List Request × σ}
    (step : CloseStep environment.recorded session whole after) :
    after.1 = whole.1 ++ session.appender.toList.map .close := by
  cases step with
  | absent closed => simp [closed]
  | @quiet appender after connected called =>
      rw [Environment.close_noted called, connected]
      rfl
  | @reported appender status after connected called =>
      show after.1 = _
      rw [Environment.close_noted called, connected]
      rfl

theorem CloseStep.requests_added {whole after : List Request × σ}
    (step : CloseStep environment.recorded session whole after)
    (kind : ∀ appender, Kind (.close appender)) : Request.Added Kind whole.1 after.1 := by
  refine ⟨session.appender.toList.map .close, step.requests_eq, ?_⟩
  intro request member
  obtain ⟨appender, _, rfl⟩ := List.mem_map.mp member
  exact kind appender

/-- What attempts add to the requests is what one attempt adds, and pauses. -/
theorem attempts_requests_added {α : Type} (environment : Environment σ)
    {attempt : List Request × σ → Except Status α × List Request × σ}
    (adds : ∀ whole, Request.Added Kind whole.1 (attempt whole).2.1)
    (sleep : ∀ duration, Kind (.sleep duration)) (policy : RetryPolicy)
    (retryable : List StatusCode) (operation : String) (random : Random)
    (whole : List Request × σ) :
    Request.Added Kind whole.1
      (Retry.run environment.recorded.host policy retryable operation attempt random
        whole).state.1 := by
  have attempts := @Retry.run_invariant α (List Request × σ) environment.recorded.host attempt
    (fun reached => Request.Added Kind whole.1 reached.1)
    (fun _ reached => Request.Added Kind whole.1 reached.1)
    (fun _ _ kept => kept)
    (fun duration reached kept => kept.trans (.one (sleep duration) reached.1))
    (fun {reached _ _} kept called => by
      have added := kept.trans (adds reached)
      rw [called] at added
      exact added)
    (fun {reached _ _} kept called => by
      have added := kept.trans (adds reached)
      rw [called] at added
      exact added)
    policy retryable operation random whole (.refl whole.1)
  cases outcome :
      (Retry.run environment.recorded.host policy retryable operation attempt random
        whole).outcome with
  | ok retried => exact attempts.1 retried outcome
  | error error => exact attempts.2 error outcome

theorem StartStep.requests_added {table : String} {schema : Schema} {config : Config}
    {random : Random} {ended : Except SessionError Session × List Request × σ}
    (step : StartStep environment.recorded table schema config random (requests, state) ended)
    (create : Kind (.create table .pending)) (bind : ∀ stream, Kind (.bind stream))
    (sleep : ∀ duration, Kind (.sleep duration)) : Request.Added Kind requests ended.2.1 := by
  have attempts : Request.Added Kind requests
      (creating environment.recorded table config random (requests, state)).state.1 :=
    attempts_requests_added environment (fun _ => .one create _) sleep config.retry
      config.retryableCodes "create_write_stream" random (requests, state)
  cases step with
  | invalid flawed => exact .refl requests
  | notCreated valid gaveUp => exact attempts
  | @notBound created error after valid answered bound =>
      have noted := Environment.bind_noted bound
      exact attempts.trans (noted ▸ .one (bind created.value.name) _)
  | @opened created appender after valid answered bound =>
      have noted := Environment.bind_noted bound
      exact attempts.trans (noted ▸ .one (bind created.value.name) _)

theorem finalizing_requests_added (environment : Environment σ) (session : Session)
    (whole : List Request × σ) (finalize : Kind (.finalize session.streamText))
    (sleep : ∀ duration, Kind (.sleep duration)) :
    Request.Added Kind whole.1 (session.finalizing environment.recorded whole).state.1 := by
  have paused : Request.Added Kind whole.1 (session.pause environment.recorded whole).1 :=
    .one (sleep _) whole.1
  exact paused.trans (attempts_requests_added environment (fun _ => .one finalize _) sleep
    session.config.retry session.config.retryableCodes "finalize_write_stream" session.random
    (session.pause environment.recorded whole))

theorem ConcludeStep.requests_added
    {ended : Except SessionError Nat × Session × List Request × σ}
    (step : ConcludeStep environment.recorded session (requests, state) ended)
    (finalize : Kind (.finalize session.streamText)) (sleep : ∀ duration, Kind (.sleep duration))
    (close : ∀ appender, Kind (.close appender)) :
    Request.Added Kind requests ended.2.2.1 := by
  have attempts :=
    finalizing_requests_added environment session (requests, state) finalize sleep
  cases step with
  | interrupted cancelled => exact .one (sleep _) requests
  | refused going gaveUp => exact attempts
  | miscounted going answered differs => exact attempts
  | finalized going answered agrees =>
      exact attempts.trans ((closeAppender_step environment.recorded _ _).requests_added close)

theorem AddStep.requests_added {row : Row}
    {ended : Except SessionError Unit × Session × List Request × σ}
    (step : AddStep environment.recorded row session (requests, state) ended)
    (append : ∀ appender, Kind (.append appender session.pending session.nextOffset)) :
    Request.Added Kind requests ended.2.2.1 := by
  cases step with
  | closed past => exact .refl requests
  | buffered isOpen fits => exact .refl requests
  | tooLarge isOpen large => exact .refl requests
  | stuck isOpen overflows fits flushed => exact flushed.requests_added append
  | flushed isOpen overflows fits flushed => exact flushed.requests_added append

theorem CommitStep.requests_added {ended : Except SessionError Nat × Session × List Request × σ}
    (step : CommitStep environment.recorded session (requests, state) ended)
    (append : ∀ appender, Kind (.append appender session.pending session.nextOffset))
    (finalize : ∀ stream, Kind (.finalize stream)) (sleep : ∀ duration, Kind (.sleep duration))
    (close : ∀ appender, Kind (.close appender)) : Request.Added Kind requests ended.2.2.1 := by
  cases step with
  | closed past => exact .refl requests
  | unbuffered isOpen empty concluded => exact concluded.requests_added (finalize _) sleep close
  | stuck isOpen waiting flushed => exact flushed.requests_added append
  | flushed isOpen waiting flushed concluded =>
      exact (flushed.requests_added append).trans
        (concluded.requests_added (finalize _) sleep close)

theorem AbortStep.requests_added {ended : Session × List Request × σ}
    (step : AbortStep environment.recorded session (requests, state) ended)
    (close : ∀ appender, Kind (.close appender)) : Request.Added Kind requests ended.2.1 := by
  cases step with
  | silent nameless closed => exact closed.requests_added close
  | reported named closed => exact closed.requests_added close

end Session

/-- Opening a session appends nothing. -/
theorem Course.start_requests {environment : Environment σ} {table : String} {schema : Schema}
    {config : Config} {random : Random} {state : σ} {course : Course σ}
    (started : start environment table schema config random state = .ok course)
    (appender : Appender) (batch : Batch) (offset : UInt64) :
    .append appender batch offset ∉ course.requests := by
  have added : Request.Added (fun request => request ≠ .append appender batch offset) []
      course.requests :=
    (step_of_start started).requests_added (by simp) (by simp) (by simp)
  exact added.not_mem (by simp)

/-- What a move adds to the requests: the buffer, at the offset where the acknowledged rows end, and
requests that say nothing about rows. -/
theorem Course.requests_perform {environment : Environment σ} {Kind : Request → Prop}
    (course : Course σ) (move : Move σ)
    (append : ∀ appender,
      Kind (.append appender course.session.pending course.session.nextOffset))
    (finalize : ∀ stream, Kind (.finalize stream)) (sleep : ∀ duration, Kind (.sleep duration))
    (close : ∀ appender, Kind (.close appender)) :
    Request.Added Kind course.requests (course.perform environment move).requests := by
  cases move with
  | add row => exact (Session.add_step environment.recorded row _ _).requests_added append
  | commit =>
      exact (Session.commit_step environment.recorded _ _).requests_added append finalize sleep
        close
  | abort => exact (Session.abort_step environment.recorded _ _).requests_added close
  | meanwhile change => exact .refl _

/-- Every append of a move claims the offset at which the session stood before it. -/
theorem Course.append_offsets_perform (environment : Environment σ) (course : Course σ)
    (move : Move σ) :
    Request.Added (Request.ClaimsAt course.session.nextOffset) course.requests
      (course.perform environment move).requests :=
  course.requests_perform move (fun _ => rfl) (fun _ => True.intro) (fun _ => True.intro)
    fun _ => True.intro

end RowStream
