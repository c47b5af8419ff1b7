import RowStream.Proofs.Retry.Schedule

/-!
Contract: every run of retries that has a budget comes to its end.

Owns:
- `Retry.runFrom_eq_run`, a run that came to its end is the same under any larger limit of calls;
- `Retry.Elapses.waits_length_le`, the number of waits that fit into a stretch of time.

Main statement: `Retry.run_ends`. A budget of attempts is counted down by the calls. A budget of
time is used up by the waits alone, and only if the clock never goes back.
-/

namespace RowStream.Retry

section Limits

variable {α σ : Type} {host : Host σ} {policy : RetryPolicy} {judge : Status → Verdict}
  {operation : String} {attempt : σ → Except Status α × σ} {start : UInt64} {random : Random}
  {made limit : Nat} {state : σ} {journal : Journal α σ} {finished : RetryRun α σ}

/-- The limit of calls is not what ends a run that comes to its end below it. -/
theorem Proceeds.runFrom_eq
    (proceeds : Proceeds host policy judge operation attempt start random made state journal
      finished) (returned : finished.Returned) (enough : journal.calls.length < limit) :
    runFrom host policy judge operation attempt start limit (min made maxAttemptCount)
      (policy.generator random made) state = finished := by
  obtain ⟨fuel, rfl⟩ : ∃ fuel, limit = fuel + 1 := ⟨limit - 1, by omega⟩
  induction proceeds generalizing fuel with
  | unsettled => exact absurd rfl (returned _ rfl)
  | stopped cancelled => exact runFrom_stopped cancelled fuel
  | succeeded going called => exact runFrom_succeeded going called fuel
  | final going called settled => exact runFrom_final going called settled fuel
  | exhausted going called passing spent => exact runFrom_exhausted going called passing spent fuel
  | interrupted going called passing afforded cancelled =>
      exact runFrom_interrupted going called passing afforded cancelled fuel
  | @again made state after status later finished going called passing afforded uncancelled
      proceeds inductionHypothesis =>
      rw [runFrom_again going called passing afforded uncancelled]
      have left : later.calls.length < fuel := Nat.lt_of_succ_lt_succ enough
      obtain ⟨fewer, rfl⟩ : ∃ fewer, fuel = fewer + 1 := ⟨fuel - 1, by omega⟩
      exact inductionHypothesis returned fewer left

/-- A run that returned within the limit built into it returns the same under any limit above its
calls. -/
theorem runFrom_eq_run
    (returned : (runWith host policy judge operation attempt random state).Returned)
    (enough :
      (Retry.journal host policy judge operation attempt random state).calls.length < limit) :
    runFrom host policy judge operation attempt (host.now state) limit 0 random state =
      runWith host policy judge operation attempt random state :=
  (run_proceeds host policy judge operation attempt random state).2.1.runFrom_eq returned
    enough

/-- A budget of attempts is used up before the count of attempts is full. -/
theorem Proceeds.returned_of_attempts
    (proceeds : Proceeds host policy judge operation attempt start random 0 state journal
      finished) (counted : finished.Returned ∨ journal.calls.length = callLimit)
    (limited : 0 < policy.maxAttempts.toNat) :
    finished.Returned ∧ journal.calls.length ≤ policy.maxAttempts.toNat ∧
      finished.attempts = journal.calls.length := by
  have allowed := proceeds.allows limited
  have word := policy.maxAttempts.toNat_lt
  have largest : maxAttemptCount = 2 ^ 32 - 1 := rfl
  have limit : callLimit = 2 ^ 64 := rfl
  refine ⟨counted.resolve_right fun many => by omega, allowed, ?_⟩
  rw [proceeds.attempts_eq]
  omega

/-- Without jitter every wait takes as long as the schedule says. -/
theorem Proceeds.waits_pos
    (proceeds : Proceeds host policy judge operation attempt start random 0 state journal
      finished) (steady : policy.jittered = false)
    (passing : ∀ number, .ofMillis 1 ≤ policy.baseDelay number) :
    ∀ wait ∈ journal.waits, 0 < wait.duration.millis := by
  intro wait member
  obtain ⟨index, within, rfl⟩ := List.getElem_of_mem member
  rw [proceeds.wait_eq index within, RetryPolicy.wait,
    RetryPolicy.nextDelay_of_not_jittered steady]
  exact Duration.ofMillis_le_iff.mp (passing _)

end Limits

section Clocks

variable {α β : Type}

/-- If every wait takes at least a millisecond and the clock never goes back, then up to a bound
on the ends of the waits there are no more of them than milliseconds. -/
theorem Elapses.waits_length_le {clock finish : SimClock} {journal : Journal α (Stage β)}
    {bound : Nat} (elapses : Elapses clock journal finish)
    (forwards : ∀ call ∈ journal.calls, call.before.clock.now ≤ call.after.clock.now)
    (passing : ∀ wait ∈ journal.waits, 0 < wait.duration.millis)
    (unwrapped : ∀ wait ∈ journal.waits, wait.over < UInt64.size)
    (within : ∀ wait ∈ journal.waits, wait.over ≤ bound)
    (timely : clock.now.toNat ≤ bound) : clock.now.toNat + journal.waits.length ≤ bound := by
  induction elapses with
  | rest => exact timely
  | called call => exact timely
  | @waited call wait later finish asked elapses inductionHypothesis =>
      obtain ⟨firstCall, otherCalls⟩ := List.forall_mem_cons.mp forwards
      obtain ⟨firstWait, otherWaits⟩ := List.forall_mem_cons.mp passing
      obtain ⟨firstInside, othersInside⟩ := List.forall_mem_cons.mp unwrapped
      obtain ⟨firstWithin, othersWithin⟩ := List.forall_mem_cons.mp within
      have slept := Wait.toNat_now_slept firstInside
      have others := inductionHypothesis otherCalls otherWaits othersInside othersWithin
        (slept ▸ firstWithin)
      have forward : call.before.clock.now.toNat ≤ wait.before.clock.now.toNat := by
        rw [asked]
        exact firstCall
      rw [slept, Wait.over] at others
      rw [List.length_cons]
      omega

end Clocks

section Stages

variable {α β : Type} {token : Option String} {policy : RetryPolicy}
  {judge : Status → Verdict} {operation : String}
  {attempt : Stage β → Except Status α × Stage β} {start : UInt64} {random : Random}
  {stage : Stage β} {journal : Journal α (Stage β)} {finished : RetryRun α (Stage β)}

/-- The time that is left measures the progress of a run: each wait takes some of it. -/
theorem Proceeds.returned_of_time
    (proceeds : Proceeds (Stage.host token) policy judge operation attempt start random 0
      stage journal finished) (counted : finished.Returned ∨ journal.calls.length = callLimit)
    (limited : policy.totalTimeout ≠ .zero) (steady : policy.jittered = false)
    (passing : ∀ number, .ofMillis 1 ≤ policy.baseDelay number)
    (forwards : ∀ call ∈ journal.calls, call.before.clock.now ≤ call.after.clock.now)
    (unwrapped : ∀ wait ∈ journal.waits, wait.over < UInt64.size)
    (timely : start = stage.clock.now) :
    finished.Returned ∧ journal.calls.length ≤ policy.totalTimeout.millis + 1 := by
  have moving := proceeds.waits_pos steady passing
  have onClock := proceeds.elapses.waits_length_le forwards moving unwrapped
    (fun wait member => Nat.le_pred_of_lt (unwrapped wait member))
    (Nat.le_pred_of_lt stage.clock.now.toNat_lt)
  have inTime := proceeds.elapses.waits_length_le forwards moving unwrapped
    (proceeds.waits_within limited) (timely ▸ Nat.le_add_right _ _)
  have limit : callLimit = 2 ^ 64 := rfl
  have last : UInt64.size.pred = 2 ^ 64 - 1 := rfl
  rw [RetryPolicy.deadline, timely] at inTime
  rcases proceeds.rounds with ⟨waited, _⟩ | ⟨decided, returned, _⟩
  · exact ⟨counted.resolve_right fun many => by omega, by omega⟩
  · exact ⟨returned, by omega⟩

end Stages

/-- Whatever the calls come to, and even if they all fail for a passing reason: a run with a budget
of attempts comes to its end within that; and a run with a budget of time, if it waits at least a
millisecond each time on a clock that neither wraps around nor goes back, within one call more
than the budget has milliseconds. Neither depends on the limit of calls. -/
theorem run_ends (policy : RetryPolicy) (judge : Status → Verdict) (operation : String)
    (random : Random) :
    (0 < policy.maxAttempts.toNat →
      ∀ {α σ : Type} (host : Host σ) (attempt : σ → Except Status α × σ) (state : σ),
        let finished := runWith host policy judge operation attempt random state
        let calls := (Retry.journal host policy judge operation attempt random state).calls
        finished.Returned ∧ calls.length ≤ policy.maxAttempts.toNat ∧
          finished.attempts = calls.length ∧
          ∀ limit, calls.length < limit →
            runFrom host policy judge operation attempt (host.now state) limit 0 random state =
              finished) ∧
    (policy.totalTimeout ≠ .zero → policy.jittered = false →
      (∀ number, .ofMillis 1 ≤ policy.baseDelay number) →
      ∀ {α β : Type} (token : Option String) (attempt : Stage β → Except Status α × Stage β)
        (stage : Stage β),
        let finished := runWith (Stage.host token) policy judge operation attempt random stage
        let journal :=
          Retry.journal (Stage.host token) policy judge operation attempt random stage
        (∀ call ∈ journal.calls, call.before.clock.now ≤ call.after.clock.now) →
        (∀ wait ∈ journal.waits, wait.over < UInt64.size) →
        finished.Returned ∧ journal.calls.length ≤ policy.totalTimeout.millis + 1 ∧
          ∀ limit, journal.calls.length < limit →
            runFrom (Stage.host token) policy judge operation attempt stage.clock.now limit 0
              random stage = finished) := by
  constructor
  · intro limited α σ host attempt state finished calls
    obtain ⟨_, proceeds, counted⟩ :=
      run_proceeds host policy judge operation attempt random state
    obtain ⟨returned, allowed, reported⟩ := proceeds.returned_of_attempts counted limited
    exact ⟨returned, allowed, reported, fun limit enough => runFrom_eq_run returned enough⟩
  · intro limited steady passing α β token attempt stage finished journal forwards unwrapped
    obtain ⟨_, proceeds, counted⟩ :=
      run_proceeds (Stage.host token) policy judge operation attempt random stage
    obtain ⟨returned, allowed⟩ :=
      proceeds.returned_of_time counted limited steady passing forwards unwrapped rfl
    exact ⟨returned, allowed, fun limit enough => runFrom_eq_run returned enough⟩

/-- A service that is down for ever and takes two milliseconds to say so: the first policy stops
after its five attempts, the second one after the third call, when ten milliseconds more would be
too many. -/
theorem run_ends_of_endless_failure :
    let attempt : Stage Unit → Except Status Unit × Stage Unit := fun stage =>
      (.error (.unavailable "down"), stage.advance (.ofMillis 2))
    let judge := Verdict.ofStatus Verdict.standardRetryable
    let stage : Stage Unit := { backend := () }
    let patient : RetryPolicy :=
      { RetryPolicy.brief with
        multiplier := 1.0
        maxAttempts := 0
        totalTimeout := .ofMillis 25 }
    let counted := Retry.journal (Stage.host none) .brief judge "open" attempt (.seeded 1) stage
    let timed := Retry.journal (Stage.host none) patient judge "open" attempt (.seeded 1) stage
    (0 < RetryPolicy.brief.maxAttempts.toNat ∧
      (runWith (Stage.host none) .brief judge "open" attempt (.seeded 1) stage).Returned ∧
      counted.calls.length = 5 ∧ counted.calls.length ≤ RetryPolicy.brief.maxAttempts.toNat) ∧
    (patient.totalTimeout ≠ .zero ∧ patient.jittered = false ∧
      (∀ number, .ofMillis 1 ≤ patient.baseDelay number) ∧
      (∀ call ∈ timed.calls, call.before.clock.now ≤ call.after.clock.now) ∧
      (∀ wait ∈ timed.waits, wait.over < UInt64.size) ∧
      (runWith (Stage.host none) patient judge "open" attempt (.seeded 1) stage).Returned ∧
      timed.calls.length = 3 ∧ timed.calls.length ≤ patient.totalTimeout.millis + 1) := by
  intro attempt judge stage patient counted timed
  have limited : 0 < RetryPolicy.brief.maxAttempts.toNat := by decide
  have budget : patient.totalTimeout ≠ .zero := by decide +kernel
  have passing : ∀ number, .ofMillis 1 ≤ patient.baseDelay number := by
    intro number
    rw [RetryPolicy.baseDelay_of_constant rfl]
    decide +kernel
  have forwards : ∀ call ∈ timed.calls, call.before.clock.now ≤ call.after.clock.now := by
    decide +kernel
  have unwrapped : ∀ wait ∈ timed.waits, wait.over < UInt64.size := by decide +kernel
  obtain ⟨stopped, allowed, _⟩ :=
    (run_ends .brief judge "open" (.seeded 1)).1 limited (Stage.host none) attempt stage
  obtain ⟨ended, within, _⟩ :=
    (run_ends patient judge "open" (.seeded 1)).2 budget rfl passing none attempt stage
      forwards unwrapped
  exact ⟨⟨limited, stopped, by decide +kernel, allowed⟩, budget, rfl, passing, forwards, unwrapped,
    ended, by decide +kernel, within⟩

end RowStream.Retry
