import RowStream.Client

/-!
Contract: carrying out an operation under a retry policy.

Owns: `Retry.runWith`, which repeats an operation until it succeeds, fails for good, exhausts
the budgets of its policy or is cancelled, and `Retry.run`, which judges failures by their
status codes.

A run makes at most `Retry.callLimit` calls. The limit exceeds every budget of attempts that
a policy can set, so that only a run without one can reach it; such a run ends with the
reason `unsettled`.
-/

namespace RowStream

/-- A value, and the number of attempts it took. -/
structure Retried (α : Type) where
  value : α
  attempts : Nat
deriving DecidableEq, Repr

/-- How a run ended, and what it left behind. -/
structure RetryRun (α σ : Type) where
  outcome : Except RetryError (Retried α)
  random : Random
  state : σ

namespace Retry

variable {α σ : Type}

/-- The number of calls that a run makes at most. -/
def callLimit : Nat := UInt64.size

/-- Attempts are counted up to here; the count then stands still. -/
def maxAttemptCount : Nat := UInt32.size - 1

/-- The run after `attempts` failures, with `fuel` calls left. -/
def runFrom (host : Host σ) (policy : RetryPolicy) (judge : Status → Verdict)
    (operation : String) (attempt : σ → Except Status α × σ) (start : UInt64) :
    (fuel attempts : Nat) → Random → σ → RetryRun α σ
  | 0, attempts, random, state =>
      ⟨.error ⟨operation, attempts, .unsettled, none⟩, random, state⟩
  | fuel + 1, attempts, random, state =>
      if host.cancelled state then
        ⟨.error ⟨operation, attempts, .interrupted, none⟩, random, state⟩
      else
        let attempts := min (attempts + 1) maxAttemptCount
        match attempt state with
        | (.ok value, state) => ⟨.ok ⟨value, attempts⟩, random, state⟩
        | (.error status, state) =>
            let verdict := judge status
            if verdict ≠ .transient then
              ⟨.error ⟨operation, attempts, .nonRetryable verdict, some status⟩, random,
                host.report (.notRetrying operation attempts status verdict) state⟩
            else
              let (delay, random) := policy.nextDelay attempts random
              if policy.shouldRetry attempts (timeBetween start (host.now state)) delay then
                let state := host.report (.retrying operation attempts delay status) state
                let state := host.sleep delay state
                if host.cancelled state then
                  ⟨.error ⟨operation, attempts, .interrupted, some status⟩, random, state⟩
                else
                  runFrom host policy judge operation attempt start fuel attempts random state
              else
                ⟨.error ⟨operation, attempts, .exhausted, some status⟩, random,
                  host.report (.budgetExhausted operation attempts status) state⟩

/-- Attempts an operation until it succeeds, fails for good as `judge` sees it, runs out of
budget or is cancelled. -/
def runWith (host : Host σ) (policy : RetryPolicy) (judge : Status → Verdict)
    (operation : String) (attempt : σ → Except Status α × σ) (random : Random) (state : σ) :
    RetryRun α σ :=
  runFrom host policy judge operation attempt (host.now state) callLimit 0 random state

/-- Attempts an operation again after each failure with a retryable code. -/
def run (host : Host σ) (policy : RetryPolicy) (retryable : List StatusCode)
    (operation : String) (attempt : σ → Except Status α × σ) (random : Random) (state : σ) :
    RetryRun α σ :=
  runWith host policy (Verdict.ofStatus retryable) operation attempt random state

end Retry

end RowStream
