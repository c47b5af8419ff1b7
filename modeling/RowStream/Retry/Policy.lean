import RowStream.Random
import RowStream.Status
import RowStream.Time

/-!
Contract: when a failed request is tried again, and after how long.

Owns:
- `RetryPolicy`, an exponential schedule of waits with a budget of attempts and of time;
- `Verdict`, whether a failure is worth another attempt, judged by its status code.

Waits are computed in binary floating point and cut down to whole milliseconds.
-/

namespace RowStream

/-- Bounds of the schedule of waits. -/
structure RetryPolicy where
  /-- Wait before the first retry. -/
  initialDelay : Duration
  /-- Growth factor between waits. -/
  multiplier : Float
  /-- Cap on any single wait. -/
  maxDelay : Duration
  /-- Attempts including the first; zero for no bound by count. -/
  maxAttempts : UInt32
  /-- Time for all attempts together; zero for no bound by time. -/
  totalTimeout : Duration
  /-- Draw each wait uniformly from zero to its computed length. -/
  jittered : Bool

namespace RetryPolicy

def standard : RetryPolicy where
  initialDelay := .ofMillis 1250
  multiplier := 1.3
  maxDelay := .ofMillis 60000
  maxAttempts := 5
  totalTimeout := .ofMillis 600000
  jittered := true

/-- A short schedule without jitter. -/
def brief : RetryPolicy where
  initialDelay := .ofMillis 10
  multiplier := 2.0
  maxDelay := .ofMillis 100
  maxAttempts := 5
  totalTimeout := .ofMillis 10000
  jittered := false

/-- The first failure is final. -/
def single : RetryPolicy :=
  { brief with maxAttempts := 1 }

instance : Inhabited RetryPolicy := ⟨standard⟩

/-- `base` multiplied `exponent` times, by repeated squaring: the order of the roundings
is part of the schedule. -/
def power (base : Float) (exponent : Nat) : Float :=
  go base 1.0 exponent
where
  go (square product : Float) (exponent : Nat) : Float :=
    let product := if exponent % 2 = 1 then product * square else product
    if exponent < 2 then product
    else go (square * square) product (exponent / 2)
  termination_by exponent
  decreasing_by omega

/-- The smaller number; what is not a number yields to what is. -/
def lesser (left right : Float) : Float :=
  if right < left then right
  else if left.isNaN then right
  else left

/-- The largest exponent the schedule grows to. -/
def maxExponent : Nat := UInt32.size / 2 - 1

/-- The wait after `attempts` failures, before jitter. -/
def baseDelay (policy : RetryPolicy) (attempts : Nat) : Duration :=
  let exponent := min (attempts - 1) maxExponent
  let initial := Float.ofNat policy.initialDelay.millis
  let cap := Float.ofNat policy.maxDelay.millis
  .ofMillis (lesser (initial * power policy.multiplier exponent) cap).toUInt64.toNat

/-- One more than a word, or the last word. -/
private def successor (word : UInt64) : UInt64 :=
  if word + 1 = 0 then word else word + 1

private theorem successor_pos (word : UInt64) : 0 < successor word := by
  unfold successor
  split
  · next last =>
      refine UInt64.pos_iff_ne_zero.mpr fun zero => ?_
      rw [zero] at last
      exact absurd last (by decide)
  · next inside => exact UInt64.pos_iff_ne_zero.mpr inside

private theorem toNat_successor_le (word : UInt64) :
    (successor word).toNat ≤ word.toNat + 1 := by
  unfold successor
  split
  · omega
  · rw [UInt64.toNat_add]
    exact Nat.mod_le _ _

/-- The wait after `attempts` failures. -/
def nextDelay (policy : RetryPolicy) (attempts : Nat) (random : Random) : Duration × Random :=
  let base := policy.baseDelay attempts
  if policy.jittered then
    let (millis, rest) := random.range 0 (successor base.millisWord)
    (.ofMillis millis.toNat, rest)
  else
    (base, random)

/-- Whether another attempt after waiting `delay` is within both budgets. -/
def shouldRetry (policy : RetryPolicy) (attempts : Nat) (elapsed delay : Duration) : Bool :=
  let outOfAttempts := 0 < policy.maxAttempts.toNat ∧ policy.maxAttempts.toNat ≤ attempts
  let outOfTime := policy.totalTimeout ≠ .zero ∧ policy.totalTimeout < elapsed + delay
  !decide outOfAttempts && !decide outOfTime

private theorem power_go_one (exponent : Nat) : power.go 1.0 1.0 exponent = 1.0 := by
  have one : (1.0 : Float) * 1.0 = 1.0 := by decide +kernel
  induction exponent using Nat.strongRecOn with
  | _ exponent inductionHypothesis =>
      rw [power.go]
      simp only [one, ite_self]
      split
      · rfl
      · exact inductionHypothesis _ (by omega)

/-- Without growth every wait of the schedule is the first one. -/
theorem baseDelay_of_constant {policy : RetryPolicy} (constant : policy.multiplier = 1.0)
    (attempts : Nat) : policy.baseDelay attempts = policy.baseDelay 1 := by
  simp only [baseDelay, power, constant, power_go_one]

/-- Nothing is tried again after more time than there is. -/
theorem le_totalTimeout_of_shouldRetry {policy : RetryPolicy} {attempts : Nat}
    {elapsed delay : Duration} (limited : policy.totalTimeout ≠ .zero)
    (again : policy.shouldRetry attempts elapsed delay = true) :
    elapsed + delay ≤ policy.totalTimeout := by
  simp only [shouldRetry, Bool.and_eq_true, Bool.not_eq_true', decide_eq_false_iff_not,
    not_and] at again
  exact Nat.le_of_not_lt (again.2 limited)

/-- Every wait of the schedule is a whole number of milliseconds, which fits into a word. -/
theorem millisWord_baseDelay (policy : RetryPolicy) (attempts : Nat) :
    Duration.ofMillis (policy.baseDelay attempts).millisWord.toNat = policy.baseDelay attempts := by
  simp only [baseDelay, Duration.millisWord, Duration.millis_ofMillis, UInt64.ofNat_toNat]

theorem ofMillis_millis_baseDelay (policy : RetryPolicy) (attempts : Nat) :
    .ofMillis (policy.baseDelay attempts).millis = policy.baseDelay attempts := by
  simp only [baseDelay, Duration.millis_ofMillis]

theorem nextDelay_of_not_jittered {policy : RetryPolicy} (steady : policy.jittered = false)
    (attempts : Nat) (random : Random) :
    policy.nextDelay attempts random = (policy.baseDelay attempts, random) := by
  simp [nextDelay, steady]

/-- Jitter never makes a wait longer. -/
theorem nextDelay_le_baseDelay (policy : RetryPolicy) (attempts : Nat) (random : Random) :
    (policy.nextDelay attempts random).1 ≤ policy.baseDelay attempts := by
  cases jittered : policy.jittered with
  | false =>
      rw [nextDelay_of_not_jittered jittered]
      exact Nat.le_refl _
  | true =>
      let word := (policy.baseDelay attempts).millisWord
      have drawn : (policy.nextDelay attempts random).1 =
          .ofMillis (random.range 0 (successor word)).1.toNat := by
        simp [nextDelay, jittered, word]
      have below : (random.range 0 (successor word)).1.toNat < (successor word).toNat :=
        (random.range_mem (successor_pos word)).2
      have next := toNat_successor_le word
      calc (policy.nextDelay attempts random).1
          = .ofMillis (random.range 0 (successor word)).1.toNat := drawn
        _ ≤ .ofMillis word.toNat := Duration.ofMillis_le_ofMillis.mpr (by omega)
        _ = policy.baseDelay attempts := policy.millisWord_baseDelay attempts

/-- Every wait is a whole number of milliseconds, drawn or not. -/
theorem ofMillis_millis_nextDelay (policy : RetryPolicy) (attempts : Nat) (random : Random) :
    .ofMillis (policy.nextDelay attempts random).1.millis =
      (policy.nextDelay attempts random).1 := by
  cases jittered : policy.jittered with
  | false =>
      rw [nextDelay_of_not_jittered jittered]
      exact policy.ofMillis_millis_baseDelay attempts
  | true => simp only [nextDelay, jittered, if_true, Duration.millis_ofMillis]

end RetryPolicy

/-- What a failure calls for. -/
inductive Verdict where
  /-- Another attempt may succeed. -/
  | transient
  /-- Another attempt would fail too. -/
  | permanent
  /-- Nothing is known; treated like `permanent`. -/
  | unknown
deriving DecidableEq, Repr

namespace Verdict

def name : Verdict → String
  | .transient => "Transient"
  | .permanent => "Permanent"
  | .unknown => "Unknown"

/-- Codes that are retried unless said otherwise. -/
def standardRetryable : List StatusCode :=
  [.unavailable, .deadlineExceeded, .resourceExhausted]

/-- Judges a status by its code: the retryable ones are transient. -/
def ofStatus (retryable : List StatusCode) (status : Status) : Verdict :=
  if status.code ∈ retryable then .transient
  else if status.code = .unknown then .unknown
  else .permanent

theorem ofStatus_eq_transient_iff {retryable : List StatusCode} {status : Status} :
    ofStatus retryable status = .transient ↔ status.code ∈ retryable := by
  unfold ofStatus
  split
  · next retried => simp [retried]
  · next final => split <;> simp [final]

end Verdict

end RowStream
