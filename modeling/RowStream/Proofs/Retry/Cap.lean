import RowStream.Proofs.Binary64.Arithmetic
import RowStream.Proofs.Retry.Schedule

/-!
Contract: no wait is longer than the policy allows.

Main statement: `Retry.waits_capped`, for any factor of growth, whether it is a number or not. The
cap is at most 2^53 milliseconds long: beyond that whole numbers are rounded, and a rounded cap can
be longer than the cap.
-/

namespace RowStream

open Binary64

namespace RetryPolicy

/-- Nothing passes a cap that is a number. -/
theorem placeOf_lesser_le (number : Float) {cap : Float} (ordered : cap.isNaN = false) :
    placeOf (lesser number cap) ≤ placeOf cap := by
  unfold lesser
  split
  · exact le_rfl
  · next notLess =>
      split
      · exact le_rfl
      · next known =>
          have atMost : number ≤ cap := le_of_not_lt (by simpa using known) ordered notLess
          exact (le_iff.mp atMost).2.2

/-- The cap holds before the wait is drawn, for any multiplier, and also where the power is no
number. -/
theorem baseDelay_le_maxDelay {policy : RetryPolicy}
    (capped : policy.maxDelay ≤ .ofMillis (2 ^ 53)) (attempts : Nat) :
    policy.baseDelay attempts ≤ policy.maxDelay := by
  have exact : policy.maxDelay.millis ≤ 2 ^ 53 := by
    have nanos := Duration.le_iff_nanos_le.mp capped
    rw [Duration.nanos_ofMillis] at nanos
    rw [Duration.millis]
    omega
  have ordered := (rounds_ofNat policy.maxDelay.millis).ordered
  apply Duration.ofMillis_le_iff.mpr
  apply Nat.le_trans (toUInt64_mono (placeOf_lesser_le _ ordered))
  exact (toNat_toUInt64_ofNat exact).le

end RetryPolicy

namespace Retry

variable {α σ : Type} {host : Host σ} {policy : RetryPolicy} {judge : Status → Verdict}
  {operation : String} {attempt : σ → Except Status α × σ} {start : UInt64} {random : Random}
  {made : Nat} {state : σ} {journal : Journal α σ} {finished : RetryRun α σ}

theorem Proceeds.wait_le_maxDelay
    (proceeds : Proceeds host policy judge operation attempt start random made state journal
      finished) (capped : policy.maxDelay ≤ .ofMillis (2 ^ 53)) :
    ∀ wait ∈ journal.waits, wait.duration ≤ policy.maxDelay := by
  intro wait member
  obtain ⟨index, within, rfl⟩ := List.mem_iff_getElem.mp member
  rw [proceeds.wait_eq index within]
  exact Nat.le_trans (policy.nextDelay_le_baseDelay _ _)
    (RetryPolicy.baseDelay_le_maxDelay capped _)

/-- No wait that a policy computes is longer than its cap, and none that a run makes, whatever the
host, the operation and the judgement of its failures. -/
theorem waits_capped {policy : RetryPolicy} (capped : policy.maxDelay ≤ .ofMillis (2 ^ 53)) :
    (∀ (attempts : Nat) (random : Random),
      (policy.nextDelay attempts random).1 ≤ policy.baseDelay attempts ∧
        policy.baseDelay attempts ≤ policy.maxDelay ∧
        (policy.jittered = false →
          (policy.nextDelay attempts random).1 = policy.baseDelay attempts)) ∧
      ∀ {α σ : Type} (host : Host σ) (judge : Status → Verdict) (operation : String)
        (attempt : σ → Except Status α × σ) (random : Random) (state : σ),
        ∀ wait ∈ (Retry.journal host policy judge operation attempt random state).waits,
          wait.duration ≤ policy.maxDelay := by
  constructor
  · intro attempts random
    refine ⟨policy.nextDelay_le_baseDelay attempts random,
      RetryPolicy.baseDelay_le_maxDelay capped attempts, ?_⟩
    intro steady
    rw [RetryPolicy.nextDelay_of_not_jittered steady]
  · intro α σ host judge operation attempt random state
    exact (run_proceeds host policy judge operation attempt random state).2.1.wait_le_maxDelay
      capped

/-- Growth by what is not a number, and a cap that is no whole number of milliseconds. -/
theorem waits_capped_without_growth :
    let policy :=
      { RetryPolicy.brief with multiplier := 0.0 / 0.0, maxDelay := ⟨5400000⟩, jittered := true }
    let failing := fun stage : Stage Unit => (Except.error (.unavailable "busy"), stage)
    let journal : Journal Nat (Stage Unit) :=
      Retry.journal (Stage.host none) policy (Verdict.ofStatus Verdict.standardRetryable)
        "finalize" failing (.seeded 1) { backend := () }
    policy.maxDelay ≤ .ofMillis (2 ^ 53) ∧ policy.multiplier.isNaN = true ∧
      policy.baseDelay 3 = .ofMillis 5 ∧
      (policy.nextDelay 3 (.seeded 1)).1 ≤ policy.baseDelay 3 ∧
      policy.baseDelay 3 ≤ policy.maxDelay ∧
      journal.waits.length = 4 ∧ ∀ wait ∈ journal.waits, wait.duration ≤ policy.maxDelay := by
  intro policy failing journal
  have capped : policy.maxDelay ≤ .ofMillis (2 ^ 53) := by decide
  obtain ⟨delays, waits⟩ := waits_capped capped
  exact ⟨capped, by decide +kernel, by decide +kernel, (delays 3 (.seeded 1)).1,
    (delays 3 (.seeded 1)).2.1, by decide +kernel, waits _ _ _ _ _ _⟩

end Retry

end RowStream
