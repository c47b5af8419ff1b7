import RowStream.Retry.Run

/-!
Contract: what a whole run of retries keeps, from what one attempt keeps.

Owns:
- `Retry.run_induction`, for what holds before an attempt, after a failed one and after a
  successful one;
- `Retry.run_invariant`, for what no failed attempt changes;
- `Retry.run_of_cancelled`, a run without an attempt, and `Retry.run_of_first_ok` and
  `Retry.run_of_first_final`, runs of a single attempt.
-/

namespace RowStream.Retry

variable {α σ : Type} {host : Host σ} {attempt : σ → Except Status α × σ}

/-- The induction is on the calls left. Reports and waits stand between two attempts, so
they have to keep what a failed attempt left. -/
theorem runFrom_induction (Ready Failed : σ → Prop) (Done : α → σ → Prop)
    (again : ∀ state, Failed state → Ready state)
    (report : ∀ event state, Failed state → Failed (host.report event state))
    (sleep : ∀ duration state, Failed state → Failed (host.sleep duration state))
    (fails : ∀ {state status after}, Ready state → attempt state = (.error status, after) →
      Failed after)
    (succeeds : ∀ {state value after}, Ready state → attempt state = (.ok value, after) →
      Done value after)
    (policy : RetryPolicy) (judge : Status → Verdict) (operation : String) (start : UInt64)
    (fuel attempts : Nat) (random : Random) (state : σ) (ready : Ready state) :
    let finished :=
      runFrom host policy judge operation attempt start fuel attempts random state
    (∀ retried, finished.outcome = .ok retried → Done retried.value finished.state) ∧
      (∀ error, finished.outcome = .error error →
        Failed finished.state ∨
          finished.state = state ∧ (fuel = 0 ∨ host.cancelled state = true)) := by
  induction fuel generalizing attempts random state with
  | zero =>
      simp only [runFrom]
      exact ⟨fun _ impossible => by simp at impossible,
        fun _ _ => Or.inr ⟨trivial, Or.inl trivial⟩⟩
  | succ fuel inductionHypothesis =>
      rw [runFrom]
      split
      · next cancelled =>
          exact ⟨fun _ impossible => by simp at impossible,
            fun _ _ => Or.inr ⟨rfl, Or.inr cancelled⟩⟩
      · cases called : attempt state with
        | mk answer after =>
          cases answer with
          | ok value =>
              refine ⟨?_, fun _ impossible => by simp at impossible⟩
              intro retried outcome
              have same := Except.ok.inj outcome
              rw [← same]
              exact succeeds ready called
          | error status =>
              have failed : Failed after := fails ready called
              simp only
              split
              · exact ⟨fun _ impossible => by simp at impossible,
                  fun _ _ => Or.inl (report _ _ failed)⟩
              · split
                · have waited := sleep
                    (policy.nextDelay (min (attempts + 1) maxAttemptCount) random).1 _
                    (report (.retrying operation (min (attempts + 1) maxAttemptCount)
                      (policy.nextDelay (min (attempts + 1) maxAttemptCount) random).1 status)
                      after failed)
                  split
                  · exact ⟨fun _ impossible => by simp at impossible, fun _ _ => Or.inl waited⟩
                  · have later := inductionHypothesis (min (attempts + 1) maxAttemptCount)
                      (policy.nextDelay (min (attempts + 1) maxAttemptCount) random).2 _
                      (again _ waited)
                    refine ⟨later.1, ?_⟩
                    intro error outcome
                    apply Or.inl
                    rcases later.2 error outcome with lost | ⟨unchanged, _⟩
                    · exact lost
                    · rw [unchanged]
                      exact waited
                · exact ⟨fun _ impossible => by simp at impossible,
                    fun _ _ => Or.inl (report _ _ failed)⟩

/-- Apart from the calls only reports and waits touch the state, so that what a call needs and
leaves can be followed from each to the next. -/
theorem run_induction (Ready Failed : σ → Prop) (Done : α → σ → Prop)
    (again : ∀ state, Failed state → Ready state)
    (report : ∀ event state, Failed state → Failed (host.report event state))
    (sleep : ∀ duration state, Failed state → Failed (host.sleep duration state))
    (fails : ∀ {state status after}, Ready state → attempt state = (.error status, after) →
      Failed after)
    (succeeds : ∀ {state value after}, Ready state → attempt state = (.ok value, after) →
      Done value after)
    (policy : RetryPolicy) (retryable : List StatusCode) (operation : String) (random : Random)
    (state : σ) (ready : Ready state) :
    let finished := run host policy retryable operation attempt random state
    (∀ retried, finished.outcome = .ok retried → Done retried.value finished.state) ∧
      (∀ error, finished.outcome = .error error →
        Failed finished.state ∨ finished.state = state ∧ host.cancelled state = true) := by
  have whole := runFrom_induction Ready Failed Done again report sleep fails succeeds policy
    (Verdict.ofStatus retryable) operation (host.now state) callLimit 0 random state ready
  refine ⟨whole.1, ?_⟩
  intro error outcome
  rcases whole.2 error outcome with failed | ⟨unchanged, noCalls | cancelled⟩
  · exact Or.inl failed
  · exact absurd noCalls (by decide)
  · exact Or.inr ⟨unchanged, cancelled⟩

theorem run_invariant (Failed : σ → Prop) (Done : α → σ → Prop)
    (report : ∀ event state, Failed state → Failed (host.report event state))
    (sleep : ∀ duration state, Failed state → Failed (host.sleep duration state))
    (fails : ∀ {state status after}, Failed state → attempt state = (.error status, after) →
      Failed after)
    (succeeds : ∀ {state value after}, Failed state → attempt state = (.ok value, after) →
      Done value after)
    (policy : RetryPolicy) (retryable : List StatusCode) (operation : String) (random : Random)
    (state : σ) (failed : Failed state) :
    let finished := run host policy retryable operation attempt random state
    (∀ retried, finished.outcome = .ok retried → Done retried.value finished.state) ∧
      (∀ error, finished.outcome = .error error → Failed finished.state) := by
  have whole := run_induction Failed Failed Done (fun _ kept => kept) report sleep fails succeeds
    policy retryable operation random state failed
  refine ⟨whole.1, ?_⟩
  intro error outcome
  rcases whole.2 error outcome with kept | ⟨unchanged, _⟩
  · exact kept
  · rw [unchanged]
    exact failed

theorem callLimit_eq_succ : callLimit = (callLimit - 1) + 1 := by decide

/-- A run that is cancelled beforehand makes no attempt. -/
theorem run_of_cancelled (policy : RetryPolicy) (retryable : List StatusCode)
    (operation : String) (random : Random) {state : σ} (cancelled : host.cancelled state = true) :
    run host policy retryable operation attempt random state =
      ⟨.error ⟨operation, 0, .interrupted, none⟩, random, state⟩ := by
  unfold run runWith
  rw [callLimit_eq_succ, runFrom, if_pos cancelled]

theorem run_of_first_ok (policy : RetryPolicy) (retryable : List StatusCode) (operation : String)
    (random : Random) {state after : σ} {value : α} (going : host.cancelled state = false)
    (called : attempt state = (.ok value, after)) :
    run host policy retryable operation attempt random state =
      ⟨.ok ⟨value, 1⟩, random, after⟩ := by
  unfold run runWith
  rw [callLimit_eq_succ, runFrom, going, called]
  rfl

theorem run_of_first_final (policy : RetryPolicy) {retryable : List StatusCode}
    (operation : String) (random : Random) {state after : σ} {status : Status}
    (going : host.cancelled state = false) (called : attempt state = (.error status, after))
    (final : status.code ∉ retryable) :
    run host policy retryable operation attempt random state =
      ⟨.error ⟨operation, 1, .nonRetryable (Verdict.ofStatus retryable status), some status⟩,
        random,
        host.report (.notRetrying operation 1 status (Verdict.ofStatus retryable status))
          after⟩ := by
  have settled : Verdict.ofStatus retryable status ≠ .transient :=
    fun transient => final (Verdict.ofStatus_eq_transient_iff.mp transient)
  unfold run runWith
  rw [callLimit_eq_succ, runFrom, going, called]
  simp only [Bool.false_eq_true, if_false]
  rw [if_pos settled]
  rfl

end RowStream.Retry
