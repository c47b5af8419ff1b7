import RowStream.Proofs.Retry.Outcome
import RowStream.Proofs.Session.Closure
import RowStream.Proofs.Session.Conclusion
import RowStream.Proofs.Session.Failure

/-!
Contract: what a session shows of its attempts, against the requests that it made.

Owns:
- `Request.creates` and `Request.finalizes`, the requests of a record that create or finalize;
- `Retry.run_requests`, the requests of a run of retries, counted by its attempts;
- `Course.Attempted`, the invariant of a whole course.

Main statement: `Course.attempts_shown`. The attempts to create a stream are always shown; those
to finalize it only by a commit that the service answered with a number of rows.
-/

namespace RowStream

variable {σ : Type} {environment : Environment σ}

/-! ### Requests of one kind -/

namespace Request

def isCreate : Request → Bool
  | .create _ _ => true
  | _ => false

def isFinalize : Request → Bool
  | .finalize _ => true
  | _ => false

def creates (requests : List Request) : Nat := requests.countP isCreate

def finalizes (requests : List Request) : Nat := requests.countP isFinalize

theorem Added.countP_eq {kind : Request → Bool} {before after : List Request}
    (added : Added (fun request => kind request = false) before after) :
    after.countP kind = before.countP kind := by
  obtain ⟨requests, extended, others⟩ := added
  have none : requests.countP kind = 0 := by
    apply List.countP_eq_zero.mpr
    intro request member counted
    rw [others request member] at counted
    exact Bool.false_ne_true counted
  rw [extended, List.countP_append, none, Nat.add_zero]

theorem countP_concat {kind : Request → Bool} {request : Request} (requests : List Request)
    (counted : kind request = true) :
    (requests ++ [request]).countP kind = requests.countP kind + 1 := by
  rw [List.countP_append, List.countP_singleton, if_pos counted]

end Request

namespace Retry

variable {α : Type}

/-- A run that is not cancelled beforehand makes a call. -/
theorem run_attempts_pos {host : Host σ} {attempt : σ → Except Status α × σ}
    (policy : RetryPolicy) (retryable : List StatusCode) (operation : String) (random : Random)
    {state : σ} (going : host.cancelled state = false) :
    0 < (run host policy retryable operation attempt random state).attempts := by
  obtain ⟨_, proceeds, counted⟩ :=
    run_proceeds host policy (Verdict.ofStatus retryable) operation attempt random state
  have called : 0 < (journal host policy (Verdict.ofStatus retryable) operation attempt random
      state).calls.length := by
    rcases counted with returned | many
    · obtain ⟨last, found, _⟩ := proceeds.ends returned going
      apply List.length_pos_iff.mpr
      intro none
      rw [none] at found
      simp at found
    · rw [many]
      decide
  have limit : maxAttemptCount = 4294967295 := rfl
  have attempts := proceeds.attempts_eq
  change 0 < (runWith host policy (Verdict.ofStatus retryable) operation attempt random
    state).attempts
  omega

/-- Where it does not matter how a call ends, a run tells the number of its calls. -/
theorem Counted.attempts_eq {policy : RetryPolicy} {Tried : Nat → σ → Prop}
    {finished : RetryRun α σ}
    (counted : Counted policy Tried (fun calls _ state => Tried calls state) finished) :
    ∃ calls, Tried calls finished.state ∧ finished.attempts = min calls maxAttemptCount := by
  obtain ⟨calls, _, told⟩ := counted
  refine ⟨calls, ?_⟩
  split at told
  · next retried answered =>
      rw [RetryRun.attempts, answered]
      exact ⟨told.2, told.1⟩
  · next error gaveUp =>
      rw [RetryRun.attempts, gaveUp]
      exact ⟨told.2, told.1⟩

/-- Where every call leaves one request of a kind, and a pause none, the attempts that a run
reports are the requests it made. -/
theorem run_requests {attempt : List Request × σ → Except Status α × List Request × σ}
    {kind : Request → Bool}
    (one : ∀ whole, (attempt whole).2.1.countP kind = whole.1.countP kind + 1)
    (sleep : ∀ duration, kind (.sleep duration) = false) (policy : RetryPolicy)
    (retryable : List StatusCode) (operation : String) (random : Random)
    (whole : List Request × σ) :
    let finished := run environment.recorded.host policy retryable operation attempt random whole
    ∃ calls, finished.state.1.countP kind = whole.1.countP kind + calls ∧
      finished.attempts = min calls maxAttemptCount := by
  intro finished
  have called {calls : Nat} {reached after : List Request × σ} {answer : Except Status α}
      (tried : reached.1.countP kind = whole.1.countP kind + calls)
      (asked : attempt reached = (answer, after)) :
      after.1.countP kind = whole.1.countP kind + (calls + 1) := by
    have more := one reached
    rw [asked] at more
    simp only at more
    omega
  have counted := @run_counted α (List Request × σ) environment.recorded.host attempt
    (fun calls reached => reached.1.countP kind = whole.1.countP kind + calls)
    (fun calls _ reached => reached.1.countP kind = whole.1.countP kind + calls)
    (fun _ _ _ tried => tried)
    (fun _ duration reached tried =>
      (Request.Added.one (sleep duration) reached.1).countP_eq.trans tried)
    called called policy retryable operation random whole rfl
  exact counted.attempts_eq

end Retry

/-! ### Answers -/

namespace Session

def finalizeFailure? : Except SessionError Nat → Option RetryError
  | .error (.finalization _ (.retry error)) => some error
  | _ => none

/-- What a commit answers that came to finalizing: the stream is finalized, or the attempts to
finalize it failed. -/
def attempted (answer : Except SessionError Nat) : Bool :=
  concludes answer || (finalizeFailure? answer).isSome

/-- What the answer of a commit says of the requests to finalize and of the attempts shown. -/
structure Told (requests shown : Nat) (answer : Except SessionError Nat) : Prop where
  concluded : concludes answer = true → shown = min requests Retry.maxAttemptCount
  failed : ∀ error, finalizeFailure? answer = some error →
    shown = 0 ∧ 0 < error.attempts ∧ error.attempts = min requests Retry.maxAttemptCount

/-- What did not come to finalizing says nothing. -/
theorem told_of_not_attempted {answer : Except SessionError Nat}
    (unattempted : attempted answer = false) (requests shown : Nat) :
    Told requests shown answer := by
  obtain ⟨inconclusive, unfailed⟩ := Bool.or_eq_false_iff.mp unattempted
  refine ⟨fun conclusive => ?_, fun error failed => ?_⟩
  · exact absurd (inconclusive.symm.trans conclusive) Bool.false_ne_true
  · simp [failed] at unfailed

variable {session : Session} {requests : List Request} {state : σ}

/-! ### Operations of a session -/

/-- A session shows as many attempts to create its stream as there were, as far as the counter
goes. -/
theorem StartStep.attempts_counted {table : String} {schema : Schema} {config : Config}
    {random : Random} {ended : Except SessionError Session × List Request × σ}
    (step : StartStep environment.recorded table schema config random ([], state) ended)
    (started : ended.1 = .ok session) :
    session.stats.createAttempts = min (Request.creates ended.2.1) Retry.maxAttemptCount ∧
      session.stats.finalizeAttempts = 0 ∧ Request.finalizes ended.2.1 = 0 := by
  have unfinalized : Request.finalizes ended.2.1 = 0 := by
    have added : Request.Added (fun request => request.isFinalize = false) [] ended.2.1 :=
      step.requests_added rfl (fun _ => rfl) fun _ => rfl
    exact added.countP_eq
  cases step with
  | invalid flawed => exact absurd started (by simp)
  | notCreated valid gaveUp => exact absurd started (by simp)
  | notBound valid answered bound => exact absurd started (by simp)
  | @opened created appender after valid answered bound =>
      rw [← Except.ok.inj started]
      refine ⟨?_, rfl, unfinalized⟩
      obtain ⟨calls, counted, attempts⟩ :=
        @Retry.run_requests σ environment CreatedStream
          (environment.recorded.client.create table .pending) Request.isCreate
          (fun whole => Request.countP_concat whole.1 rfl) (fun _ => rfl) config.retry
          config.retryableCodes "create_write_stream" random ([], state)
      change (creating environment.recorded table config random ([], state)).state.1.countP
        Request.isCreate = 0 + calls at counted
      change (creating environment.recorded table config random ([], state)).attempts =
        min calls Retry.maxAttemptCount at attempts
      have noted := Environment.bind_noted bound
      have creates : Request.creates after.1 = calls := by
        rw [noted, Request.creates, List.countP_append, counted, Nat.zero_add]
        rfl
      rw [RetryRun.attempts, answered] at attempts
      change created.attempts = min (Request.creates after.1) Retry.maxAttemptCount
      rw [creates]
      exact attempts

/-- What a commit comes to once the buffer is sent, if nobody asked for the end of the stream
before. -/
theorem ConcludeStep.told {ended : Except SessionError Nat × Session × List Request × σ}
    (step : ConcludeStep environment.recorded session (requests, state) ended)
    (unasked : Request.finalizes requests = 0) (unshown : session.stats.finalizeAttempts = 0) :
    let calls := Request.finalizes ended.2.2.1
    let shown := ended.2.1.stats.finalizeAttempts
    Told calls shown ended.1 ∧ (attempted ended.1 = false → shown = 0 ∧ calls = 0) := by
  have paused : Request.finalizes (session.pause environment.recorded (requests, state)).1 = 0 := by
    have added : Request.Added (fun request => request.isFinalize = false) requests
        (requests ++ [.sleep session.config.finalizeQuiescence]) := .one (by rfl) requests
    exact added.countP_eq.trans unasked
  obtain ⟨calls, counted, attempts⟩ :=
    @Retry.run_requests σ environment Nat
      (environment.recorded.client.finalize session.streamText) Request.isFinalize
      (fun whole => Request.countP_concat whole.1 rfl) (fun _ => rfl) session.config.retry
      session.config.retryableCodes "finalize_write_stream" session.random
      (session.pause environment.recorded (requests, state))
  change Request.finalizes (session.finalizing environment.recorded (requests, state)).state.1 =
    Request.finalizes (session.pause environment.recorded (requests, state)).1 + calls at counted
  change (session.finalizing environment.recorded (requests, state)).attempts =
    min calls Retry.maxAttemptCount at attempts
  rw [paused, Nat.zero_add] at counted
  rw [← counted] at attempts
  cases step with
  | interrupted cancelled =>
      exact ⟨told_of_not_attempted rfl _ _, fun _ => ⟨unshown, paused⟩⟩
  | @refused error going gaveUp =>
      have tried : 0 < (session.finalizing environment.recorded (requests, state)).attempts :=
        Retry.run_attempts_pos session.config.retry session.config.retryableCodes
          "finalize_write_stream" session.random going
      rw [RetryRun.attempts, gaveUp] at tried attempts
      refine ⟨⟨fun impossible => absurd impossible Bool.false_ne_true, fun other told => ?_⟩,
        fun impossible => absurd impossible Bool.noConfusion⟩
      rw [← Option.some.inj told]
      exact ⟨unshown, tried, attempts⟩
  | miscounted going answered differs =>
      rw [RetryRun.attempts, answered] at attempts
      exact ⟨⟨fun _ => attempts, fun _ impossible => by simp [finalizeFailure?] at impossible⟩,
        fun impossible => absurd impossible Bool.noConfusion⟩
  | @finalized retried going answered agrees =>
      rw [RetryRun.attempts, answered] at attempts
      have released : Request.Added (fun request => request.isFinalize = false)
          (session.finalizing environment.recorded (requests, state)).state.1
          ((session.countFinalize retried.attempts
            (session.finalizing environment.recorded (requests, state)).random).closing
              environment.recorded
              (session.finalizing environment.recorded (requests, state)).state).1 :=
        (closeAppender_step environment.recorded _ _).requests_added fun _ => rfl
      rw [Request.finalizes, ← released.countP_eq] at attempts
      exact ⟨⟨fun _ => attempts, fun _ impossible => by simp [finalizeFailure?] at impossible⟩,
        fun impossible => absurd impossible Bool.noConfusion⟩

/-! ### Operations that come to no attempt -/

theorem FlushStep.attempts_eq {ended : Except SessionError Unit × Session × σ}
    (step : FlushStep environment session state ended) :
    ended.2.1.stats.createAttempts = session.stats.createAttempts ∧
      ended.2.1.stats.finalizeAttempts = session.stats.finalizeAttempts := by
  cases step with
  | interrupted cancelled => exact ⟨rfl, rfl⟩
  | unconnected closed => exact ⟨rfl, rfl⟩
  | rejected going connected sent judged => exact ⟨rfl, rfl⟩
  | acknowledged going connected sent => exact ⟨rfl, rfl⟩

theorem AddStep.attempts_eq {row : Row} {ended : Except SessionError Unit × Session × σ}
    (step : AddStep environment row session state ended) :
    ended.2.1.stats.createAttempts = session.stats.createAttempts ∧
      ended.2.1.stats.finalizeAttempts = session.stats.finalizeAttempts := by
  cases step with
  | closed past => exact ⟨rfl, rfl⟩
  | buffered isOpen fits => exact ⟨rfl, rfl⟩
  | tooLarge isOpen large => exact ⟨rfl, rfl⟩
  | stuck isOpen overflows fits flushed => exact flushed.attempts_eq
  | flushed isOpen overflows fits flushed => exact flushed.attempts_eq

theorem ConcludeStep.createAttempts_eq {ended : Except SessionError Nat × Session × σ}
    (step : ConcludeStep environment session state ended) :
    ended.2.1.stats.createAttempts = session.stats.createAttempts := by
  cases step with
  | interrupted cancelled => rfl
  | refused going gaveUp => rfl
  | miscounted going answered differs => rfl
  | finalized going answered agrees => rfl

theorem CommitStep.createAttempts_eq {ended : Except SessionError Nat × Session × σ}
    (step : CommitStep environment session state ended) :
    ended.2.1.stats.createAttempts = session.stats.createAttempts := by
  cases step with
  | closed past => rfl
  | unbuffered isOpen empty concluded => exact concluded.createAttempts_eq
  | stuck isOpen waiting flushed => exact flushed.attempts_eq.1
  | flushed isOpen waiting flushed concluded =>
      exact concluded.createAttempts_eq.trans flushed.attempts_eq.1

/-- An open session comes to finalizing once at most, in the commit that closes it. -/
theorem CommitStep.told {ended : Except SessionError Nat × Session × List Request × σ}
    (step : CommitStep environment.recorded session (requests, state) ended)
    (isOpen : session.phase = .open) (unasked : Request.finalizes requests = 0)
    (unshown : session.stats.finalizeAttempts = 0) :
    let calls := Request.finalizes ended.2.2.1
    let shown := ended.2.1.stats.finalizeAttempts
    Told calls shown ended.1 ∧ (attempted ended.1 = false → shown = 0 ∧ calls = 0) := by
  have sent {result : Except SessionError Unit} {left : Session} {between : List Request × σ}
      (flushed : FlushStep environment.recorded session (requests, state)
        (result, left, between)) :
      left.stats.finalizeAttempts = 0 ∧ Request.finalizes between.1 = 0 := by
    have added : Request.Added (fun request => request.isFinalize = false) requests between.1 :=
      flushed.requests_added fun _ => rfl
    exact ⟨flushed.attempts_eq.2.trans unshown, added.countP_eq.trans unasked⟩
  cases step with
  | closed past => exact absurd isOpen past
  | unbuffered _ empty concluded => exact concluded.told unasked unshown
  | @stuck error failed after _ waiting flushed =>
      have untried : attempted (.error error) = false := by
        rcases flushed.error_eq rfl with ⟨cause, told⟩ | closed
        · rw [told]
          rfl
        · rw [closed]
          rfl
      exact ⟨told_of_not_attempted untried _ _, fun _ => sent flushed⟩
  | flushed _ waiting flushed concluded =>
      obtain ⟨shown, calls⟩ := sent flushed
      exact concluded.told calls shown

end Session

/-! ### Whole courses -/

namespace Course

variable {course : Course σ}

/-- What a course shows of its attempts at any moment. -/
structure Attempted (course : Course σ) : Prop where
  consistent : course.session.Consistent
  created : course.session.stats.createAttempts =
    min (Request.creates course.requests) Retry.maxAttemptCount
  told : ∀ answer ∈ course.commits,
    Session.Told (Request.finalizes course.requests) course.session.stats.finalizeAttempts answer
  untried : (∀ answer ∈ course.commits, Session.attempted answer = false) →
    course.session.stats.finalizeAttempts = 0 ∧ Request.finalizes course.requests = 0
  uncommitted : course.session.phase = .open → course.commits = []

theorem creates_perform (environment : Environment σ) (course : Course σ) (move : Move σ) :
    Request.creates (course.perform environment move).requests =
      Request.creates course.requests := by
  have added : Request.Added (fun request => request.isCreate = false) course.requests
      (course.perform environment move).requests :=
    course.requests_perform move (fun _ => rfl) (fun _ => rfl) (fun _ => rfl) fun _ => rfl
  exact added.countP_eq

/-- No call on an open session asks for another stream. -/
theorem creates_run (course : Course σ) (moves : List (Move σ)) :
    Request.creates (course.run environment moves).requests =
      Request.creates course.requests :=
  run_induction (fun reached => Request.creates reached.requests =
      Request.creates course.requests) (fun _ => True)
    (fun reached move same _ => (creates_perform environment reached move).trans same) moves
    (fun _ _ => trivial) course rfl

theorem attempted_start {table : String} {schema : Schema} {config : Config} {random : Random}
    {state : σ} (started : start environment table schema config random state = .ok course) :
    course.Attempted := by
  obtain ⟨created, shown, calls⟩ := (step_of_start started).attempts_counted rfl
  obtain ⟨_, _, uncommitted⟩ := start_eq started
  refine ⟨consistent_start started, created, ?_, fun _ => ⟨shown, calls⟩, fun _ => uncommitted⟩
  rw [uncommitted]
  simp

/-- What asks for no end of the stream and answers no commit leaves the invariant. -/
theorem Attempted.beside {after : Course σ} (attempted : course.Attempted)
    (consistent : after.session.Consistent)
    (stats : after.session.stats.createAttempts = course.session.stats.createAttempts ∧
      after.session.stats.finalizeAttempts = course.session.stats.finalizeAttempts)
    (creates : Request.creates after.requests = Request.creates course.requests)
    (finalizes : Request.finalizes after.requests = Request.finalizes course.requests)
    (commits : after.commits = course.commits)
    (phase : after.session.phase = .open → course.session.phase = .open) : after.Attempted where
  consistent := consistent
  created := by rw [stats.1, creates, attempted.created]
  told := by
    rw [stats.2, finalizes, commits]
    exact attempted.told
  untried := by
    rw [stats.2, finalizes, commits]
    exact attempted.untried
  uncommitted isOpen := commits.trans (attempted.uncommitted (phase isOpen))

theorem attempted_commit (attempted : course.Attempted) :
    (course.commit environment).2.Attempted := by
  have step := Session.commit_step environment.recorded course.session
    (course.requests, course.state)
  by_cases isOpen : course.session.phase = .open
  · have uncommitted := attempted.uncommitted isOpen
    have nothing : course.session.stats.finalizeAttempts = 0 ∧
        Request.finalizes course.requests = 0 := by
      apply attempted.untried
      rw [uncommitted]
      simp
    obtain ⟨told, untried⟩ := step.told isOpen nothing.2 nothing.1
    have answers : (course.commit environment).2.commits = [(course.commit environment).1] := by
      show course.commits ++ [(course.commit environment).1] = _
      rw [uncommitted, List.nil_append]
    refine
      { consistent := attempted.consistent.commit step
        created := ?_
        told := ?_
        untried := ?_
        uncommitted := fun still => absurd still (step.past attempted.consistent) }
    · have creates := creates_perform environment course .commit
      change Request.creates (course.commit environment).2.requests = _ at creates
      rw [creates, ← attempted.created]
      exact step.createAttempts_eq
    · rw [answers]
      exact List.forall_mem_singleton.mpr told
    · rw [answers]
      intro unattempted
      exact untried (unattempted _ (List.mem_singleton_self _))
  · rw [commit_of_closed environment isOpen]
    refine
      { consistent := attempted.consistent
        created := attempted.created
        told := ?_
        untried := ?_
        uncommitted := fun still => absurd still isOpen }
    · exact List.forall_mem_append.mpr ⟨attempted.told, List.forall_mem_singleton.mpr
        (Session.told_of_not_attempted rfl _ _)⟩
    · intro unattempted
      exact attempted.untried (List.forall_mem_append.mp unattempted).1

theorem attempted_perform (attempted : course.Attempted) (move : Move σ) :
    (course.perform environment move).Attempted := by
  have consistent : (course.perform environment move).session.Consistent :=
    consistent_perform attempted.consistent move
  have creates := creates_perform environment course move
  have phase : (course.perform environment move).session.phase = .open →
      course.session.phase = .open := fun isOpen =>
    Classical.not_not.mp fun past => past_perform past move isOpen
  cases move with
  | add row =>
      have step := Session.add_step environment.recorded row course.session
        (course.requests, course.state)
      have added : Request.Added (fun request => request.isFinalize = false) course.requests
          (course.perform environment (.add row)).requests :=
        step.requests_added fun _ => rfl
      exact attempted.beside consistent step.attempts_eq creates added.countP_eq rfl phase
  | commit => exact attempted_commit attempted
  | abort =>
      have step := Session.abort_step environment.recorded course.session
        (course.requests, course.state)
      have added : Request.Added (fun request => request.isFinalize = false) course.requests
          (course.perform environment .abort).requests := step.requests_added fun _ => rfl
      have stats := congrArg Session.stats step.session_eq
      exact attempted.beside consistent
        ⟨congrArg SessionStats.createAttempts stats, congrArg SessionStats.finalizeAttempts stats⟩
        creates added.countP_eq rfl phase
  | meanwhile change => exact attempted.beside consistent ⟨rfl, rfl⟩ creates rfl rfl phase

theorem attempted_run (attempted : course.Attempted) (moves : List (Move σ)) :
    (course.run environment moves).Attempted :=
  run_induction Attempted (fun _ => True)
    (fun _ move attempted _ => attempted_perform attempted move) moves (fun _ _ => trivial)
    course attempted

/-- In whatever order things happen, and whatever the client answers: the attempts to create that
are shown are the requests that the opening made, and those to finalize are the requests of the
one commit that came to finalizing, as long as the service answered it with a number of rows,
right or wrong. If that commit gave up, its error tells the number of requests, and none is
shown. Counts stand still at the largest one that a word of 32 bits can show. -/
theorem attempts_shown {table : String} {schema : Schema} {config : Config} {random : Random}
    {state : σ} (started : start environment table schema config random state = .ok course)
    (moves : List (Move σ)) :
    let reached := course.run environment moves
    let stats := reached.session.stats
    let creates := Request.creates course.requests
    let finalizes := Request.finalizes reached.requests
    Request.creates reached.requests = creates ∧ Request.finalizes course.requests = 0 ∧
      stats.createAttempts = min creates Retry.maxAttemptCount ∧
      (∀ answer ∈ reached.commits, Session.concludes answer = true →
        stats.finalizeAttempts = min finalizes Retry.maxAttemptCount) ∧
      (∀ stream error, .error (.finalization stream (.retry error)) ∈ reached.commits →
        stats.finalizeAttempts = 0 ∧ 0 < finalizes ∧
          error.attempts = min finalizes Retry.maxAttemptCount) ∧
      ((∀ answer ∈ reached.commits, Session.attempted answer = false) →
        stats.finalizeAttempts = 0 ∧ finalizes = 0) := by
  intro reached stats creates finalizes
  have attempted : reached.Attempted := attempted_run (attempted_start started) moves
  have unfinalized := (step_of_start started).attempts_counted rfl
  have same : Request.creates reached.requests = creates := creates_run course moves
  refine ⟨same, unfinalized.2.2, same ▸ attempted.created, ?_, ?_, attempted.untried⟩
  · intro answer member conclusive
    exact (attempted.told answer member).concluded conclusive
  · intro stream error member
    obtain ⟨unshown, positive, counted⟩ := (attempted.told _ member).failed error rfl
    exact ⟨unshown, by omega, counted⟩

/-- The service is busy twice and then finalizes the stream. -/
theorem attempts_shown_of_busy_service :
    ∃ course moves,
      moves = [.add (filledRow 3 1),
          .order (.failFinalizes [.unavailable "busy", .unavailable "busy"]), .commit] ∧
        let environment := Environment.simulated false none
        start environment "table" ⟨"Row", .empty⟩ (Config.withCeiling 4) (.seeded 0)
          { backend := ({ rates := FaultRates.none, random := .seeded 0 }, {}) } = .ok course ∧
        let reached := course.run environment moves
        reached.commits.map Except.toOption = [some 1] ∧
          Request.creates reached.requests = 1 ∧ Request.finalizes reached.requests = 3 ∧
          reached.session.stats.createAttempts = 1 ∧
          reached.session.stats.finalizeAttempts = 3 := by
  have ran : ∃ course moves,
      moves = [.add (filledRow 3 1),
          .order (.failFinalizes [.unavailable "busy", .unavailable "busy"]), .commit] ∧
        let environment := Environment.simulated false none
        start environment "table" ⟨"Row", .empty⟩ (Config.withCeiling 4) (.seeded 0)
          { backend := ({ rates := FaultRates.none, random := .seeded 0 }, {}) } = .ok course ∧
        let reached := course.run environment moves
        reached.commits.map Except.toOption = [some 1] ∧
          Request.creates course.requests = 1 ∧ Request.finalizes reached.requests = 3 := by
    refine ⟨_, _, rfl, rfl, ?_⟩
    decide +kernel
  obtain ⟨course, moves, planned, started, answered, creates, finalizes⟩ := ran
  obtain ⟨opened, _, created, concluded, _⟩ := attempts_shown started moves
  obtain ⟨answer, member, succeeded⟩ :
      ∃ answer ∈ (course.run (Environment.simulated false none) moves).commits,
        answer.toOption = some 1 := by
    rw [← List.mem_map, answered]
    exact List.mem_singleton_self _
  have conclusive : Session.concludes answer = true := by
    cases answer with
    | ok count => rfl
    | error error => simp [Except.toOption] at succeeded
  have finalized := concluded answer member conclusive
  rw [creates] at opened created
  rw [finalizes] at finalized
  exact ⟨course, moves, planned, started, answered, opened, finalizes, created, finalized⟩

/-- The service refuses to finalize the stream: one request was made, and none is shown. -/
theorem attempts_unshown_of_refusal :
    ∃ course moves,
      moves = [.order (.failFinalizes [⟨.permissionDenied, "no"⟩]), .commit] ∧
        let environment := Environment.simulated false none
        start environment "table" ⟨"Row", .empty⟩ (Config.withCeiling 4) (.seeded 0)
          { backend := ({ rates := FaultRates.none, random := .seeded 0 }, {}) } = .ok course ∧
        let reached := course.run environment moves
        Request.finalizes reached.requests = 1 ∧
          reached.session.stats.finalizeAttempts ≠ Request.finalizes reached.requests := by
  refine ⟨_, _, rfl, rfl, rfl, ?_⟩
  decide

end Course

end RowStream
