import RowStream.Proofs.Retry.Induction

/-!
Contract: how often a run of retries makes its call.

Owns:
- `RetryPolicy.Allows`, the numbers of calls within the budget of a policy;
- `Retry.run_counted`, what holds after a run, told with the number of its calls.

Main statement: `Retry.run_counted`. The number of attempts that a run reports is the number
of calls it made, up to the largest number that the count can show.
-/

namespace RowStream

/-- The calls that a policy allows; without a budget of attempts that is any number. -/
def RetryPolicy.Allows (policy : RetryPolicy) (calls : Nat) : Prop :=
  0 < policy.maxAttempts.toNat → calls ≤ policy.maxAttempts.toNat

namespace Retry

variable {α σ : Type} {host : Host σ} {attempt : σ → Except Status α × σ}

/-- Another attempt is made only while the budget has one left. -/
theorem lt_of_shouldRetry {policy : RetryPolicy} {calls : Nat} {elapsed delay : Duration}
    (again : policy.shouldRetry (min calls maxAttemptCount) elapsed delay = true)
    (limited : 0 < policy.maxAttempts.toNat) : calls < policy.maxAttempts.toNat := by
  have word := policy.maxAttempts.toNat_lt
  have limit : maxAttemptCount = 4294967295 := rfl
  simp only [RetryPolicy.shouldRetry, Bool.and_eq_true, Bool.not_eq_true', decide_eq_false_iff_not,
    not_and] at again
  have left := again.1 limited
  omega

/-- What a run comes to after a number of calls within the budget of its policy: the number is
told, and either the last call succeeded or all of them failed. -/
def Counted (policy : RetryPolicy) (Tried : Nat → σ → Prop) (Done : Nat → α → σ → Prop)
    (finished : RetryRun α σ) : Prop :=
  ∃ calls, policy.Allows calls ∧
    match finished.outcome with
    | .ok retried =>
        retried.attempts = min calls maxAttemptCount ∧ Done calls retried.value finished.state
    | .error error =>
        error.attempts = min calls maxAttemptCount ∧ Tried calls finished.state

/-- The induction is on the calls left. The count stands still once it is full, but no budget
reaches that far. -/
theorem runFrom_counted (Tried : Nat → σ → Prop) (Done : Nat → α → σ → Prop)
    (report : ∀ calls event state, Tried calls state → Tried calls (host.report event state))
    (sleep : ∀ calls duration state, Tried calls state → Tried calls (host.sleep duration state))
    (fails : ∀ {calls state status after}, Tried calls state →
      attempt state = (.error status, after) → Tried (calls + 1) after)
    (succeeds : ∀ {calls state value after}, Tried calls state →
      attempt state = (.ok value, after) → Done (calls + 1) value after)
    (policy : RetryPolicy) (judge : Status → Verdict) (operation : String) (start : UInt64)
    (fuel calls : Nat) (random : Random) (state : σ) (tried : Tried calls state)
    (left : 0 < policy.maxAttempts.toNat → calls < policy.maxAttempts.toNat) :
    Counted policy Tried Done
      (runFrom host policy judge operation attempt start fuel (min calls maxAttemptCount)
        random state) := by
  have spent : policy.Allows calls := fun limited => Nat.le_of_lt (left limited)
  induction fuel generalizing calls random state with
  | zero => exact ⟨calls, spent, rfl, tried⟩
  | succ fuel inductionHypothesis =>
      have counted : min (min calls maxAttemptCount + 1) maxAttemptCount =
          min (calls + 1) maxAttemptCount := by omega
      have allowed : policy.Allows (calls + 1) := fun limited => left limited
      rw [runFrom]
      simp only [counted]
      split
      · exact ⟨calls, spent, rfl, tried⟩
      · cases called : attempt state with
        | mk answer after =>
          cases answer with
          | ok value => exact ⟨calls + 1, allowed, rfl, succeeds tried called⟩
          | error status =>
              have failed : Tried (calls + 1) after := fails tried called
              simp only
              split
              · exact ⟨calls + 1, allowed, rfl, report _ _ _ failed⟩
              · split
                · next again =>
                  have waited := sleep _
                    (policy.nextDelay (min (calls + 1) maxAttemptCount) random).1 _
                    (report _ (.retrying operation (min (calls + 1) maxAttemptCount)
                      (policy.nextDelay (min (calls + 1) maxAttemptCount) random).1 status)
                      after failed)
                  split
                  · exact ⟨calls + 1, allowed, rfl, waited⟩
                  · exact inductionHypothesis (calls + 1)
                      (policy.nextDelay (min (calls + 1) maxAttemptCount) random).2 _ waited
                      (lt_of_shouldRetry again) allowed
                · exact ⟨calls + 1, allowed, rfl, report _ _ _ failed⟩

/-- What holds after each call, given the number of calls so far, holds when the run returns. -/
theorem run_counted (Tried : Nat → σ → Prop) (Done : Nat → α → σ → Prop)
    (report : ∀ calls event state, Tried calls state → Tried calls (host.report event state))
    (sleep : ∀ calls duration state, Tried calls state → Tried calls (host.sleep duration state))
    (fails : ∀ {calls state status after}, Tried calls state →
      attempt state = (.error status, after) → Tried (calls + 1) after)
    (succeeds : ∀ {calls state value after}, Tried calls state →
      attempt state = (.ok value, after) → Done (calls + 1) value after)
    (policy : RetryPolicy) (retryable : List StatusCode) (operation : String) (random : Random)
    (state : σ) (tried : Tried 0 state) :
    Counted policy Tried Done
      (run host policy retryable operation attempt random state) :=
  runFrom_counted Tried Done report sleep fails succeeds policy (Verdict.ofStatus retryable)
    operation (host.now state) callLimit 0 random state tried id

end Retry

end RowStream
