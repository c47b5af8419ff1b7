import RowStream.Proofs.Retry.Induction

/-!
Contract: everything that a run of retries does, in its order.

Owns:
- `RetryPolicy.wait`, the waits of a run as the policy draws them from a generator;
- `Retry.Journal`, the calls and the waits of a run, noted by the operation and the host
  themselves, and `Retry.journal`, the one of a whole run;
- `Retry.Proceeds`, one constructor a way in which a run ends and one for another round;
- `Retry.Ends`, how a run ends with its last call.

Main statements: `Retry.run_proceeds`, noting changes nothing and every run proceeds so, and
`Retry.Proceeds.repeatable` and `Retry.Proceeds.ends`, what that says about each call but the last
one and about the last one.
-/

namespace RowStream

namespace RetryPolicy

variable (policy : RetryPolicy)

/-- The schedule has stopped growing before the count of attempts stands still. -/
theorem baseDelay_min (attempts : Nat) :
    policy.baseDelay (min attempts Retry.maxAttemptCount) = policy.baseDelay attempts := by
  have count : Retry.maxAttemptCount = 4294967295 := rfl
  have largest : maxExponent = 2147483647 := rfl
  have exponent : min (min attempts Retry.maxAttemptCount - 1) maxExponent =
      min (attempts - 1) maxExponent := by
    omega
  simp only [baseDelay, exponent]

/-- Delays stop growing where the counter of attempts does. -/
theorem nextDelay_min (attempts : Nat) (random : Random) :
    policy.nextDelay (min attempts Retry.maxAttemptCount) random =
      policy.nextDelay attempts random := by
  simp only [nextDelay, baseDelay_min]

/-- No budget of attempts is larger than what the count can show. -/
theorem shouldRetry_min (attempts : Nat) (elapsed delay : Duration) :
    policy.shouldRetry (min attempts Retry.maxAttemptCount) elapsed delay =
      policy.shouldRetry attempts elapsed delay := by
  have count : Retry.maxAttemptCount = 4294967295 := rfl
  have word := policy.maxAttempts.toNat_lt
  have same : policy.maxAttempts.toNat ≤ min attempts Retry.maxAttemptCount ↔
      policy.maxAttempts.toNat ≤ attempts := by
    omega
  simp only [shouldRetry, same]

def generator (random : Random) : Nat → Random
  | 0 => random
  | waits + 1 => (policy.nextDelay (waits + 1) (generator random waits)).2

/-- The wait after the call of the given number, counted from one. -/
def wait (random : Random) (number : Nat) : Duration :=
  (policy.nextDelay number (policy.generator random (number - 1))).1

end RetryPolicy

namespace Retry

/-- One call of an operation, with the state that it found and the one that it left. -/
structure Call (α σ : Type) where
  before : σ
  answer : Except Status α
  after : σ

structure Wait (σ : Type) where
  before : σ
  duration : Duration

/-- What a run of retries did, in its order. -/
structure Journal (α σ : Type) where
  calls : List (Call α σ) := []
  waits : List (Wait σ) := []

variable {α σ : Type}

namespace Journal

def noteCall (journal : Journal α σ) (call : Call α σ) : Journal α σ :=
  { journal with calls := journal.calls ++ [call] }

def noteWait (journal : Journal α σ) (wait : Wait σ) : Journal α σ :=
  { journal with waits := journal.waits ++ [wait] }

def append (first later : Journal α σ) : Journal α σ :=
  ⟨first.calls ++ later.calls, first.waits ++ later.waits⟩

instance : Append (Journal α σ) := ⟨append⟩

theorem append_empty (journal : Journal α σ) : journal ++ (⟨[], []⟩ : Journal α σ) = journal := by
  show append journal ⟨[], []⟩ = journal
  simp [append]

theorem empty_append (journal : Journal α σ) : (⟨[], []⟩ : Journal α σ) ++ journal = journal := rfl

theorem noteCall_eq_append (journal : Journal α σ) (call : Call α σ) :
    journal.noteCall call = journal ++ ⟨[call], []⟩ := by
  show noteCall journal call = append journal ⟨[call], []⟩
  simp [noteCall, append]

theorem noteWait_eq_append (journal : Journal α σ) (call : Call α σ) (wait : Wait σ) :
    (journal.noteCall call).noteWait wait = journal ++ ⟨[call], [wait]⟩ := rfl

/-- A round that was noted before the rest of a journal stands at its front. -/
theorem noteWait_append (journal later : Journal α σ) (call : Call α σ) (wait : Wait σ) :
    (journal.noteCall call).noteWait wait ++ later =
      journal ++ ⟨call :: later.calls, wait :: later.waits⟩ := by
  show append _ _ = append _ _
  simp [noteCall, noteWait, append]

end Journal

/-- A host that notes every wait before it makes it. -/
def journaled (host : Host σ) : Host (Journal α σ × σ) where
  now := fun whole => host.now whole.2
  sleep := fun duration whole =>
    (whole.1.noteWait ⟨whole.2, duration⟩, host.sleep duration whole.2)
  cancelled := fun whole => host.cancelled whole.2
  report := fun event whole => (whole.1, host.report event whole.2)

def noted (attempt : σ → Except Status α × σ) (whole : Journal α σ × σ) :
    Except Status α × Journal α σ × σ :=
  let (answer, after) := attempt whole.2
  (answer, whole.1.noteCall ⟨whole.2, answer, after⟩, after)

theorem noted_eq {attempt : σ → Except Status α × σ} {state after : σ} {answer : Except Status α}
    (called : attempt state = (answer, after)) (journal : Journal α σ) :
    noted attempt (journal, state) = (answer, journal.noteCall ⟨state, answer, after⟩, after) := by
  simp only [noted, called]

end Retry

/-- The run came to its end by itself, and was not left at the limit of calls. -/
def RetryRun.Returned {α σ : Type} (finished : RetryRun α σ) : Prop :=
  ∀ error, finished.outcome = .error error → error.reason ≠ .unsettled

def RetryRun.error? {α σ : Type} (finished : RetryRun α σ) : Option RetryError :=
  match finished.outcome with
  | .ok _ => none
  | .error error => some error

theorem RetryRun.error?_eq_some_iff {α σ : Type} {finished : RetryRun α σ} {error : RetryError} :
    finished.error? = some error ↔ finished.outcome = .error error := by
  unfold RetryRun.error?
  split
  · next outcome => simp [outcome]
  · next outcome => simp [outcome]

def RetryRun.attempts {α σ : Type} (finished : RetryRun α σ) : Nat :=
  match finished.outcome with
  | .ok retried => retried.attempts
  | .error error => error.attempts

namespace Retry

variable {α σ : Type}

section Runs

variable (host : Host σ) (policy : RetryPolicy) (judge : Status → Verdict) (operation : String)
  (attempt : σ → Except Status α × σ) (start : UInt64) (random : Random)

/-- The calls and waits of a run. Apart from them the run that notes them is the same as the run
itself, by `run_proceeds`. -/
def journal (state : σ) : Journal α σ :=
  (runWith (journaled host) policy judge operation (noted attempt) random
    (⟨[], []⟩, state)).state.1

def announce (number : Nat) (status : Status) (after : σ) : σ :=
  host.report
    (.retrying operation (min number maxAttemptCount) (policy.wait random number) status) after

def waited (number : Nat) (status : Status) (after : σ) : σ :=
  host.sleep (policy.wait random number) (announce host policy operation random number status after)

/-- Whether both budgets leave room for another call, the last one being that of the given
number. -/
def affords (number : Nat) (call : Call α σ) : Bool :=
  policy.shouldRetry number (timeBetween start (host.now call.after)) (policy.wait random number)

/-- How a run goes on from a state after a number of calls: what it still does, and where it
ends. -/
inductive Proceeds : Nat → σ → Journal α σ → RetryRun α σ → Prop where
  /-- The limit of calls is reached. -/
  | unsettled {made : Nat} {state : σ} :
      Proceeds made state ⟨[], []⟩
        ⟨.error ⟨operation, min made maxAttemptCount, .unsettled, none⟩,
          policy.generator random made, state⟩
  | stopped {made : Nat} {state : σ} (cancelled : host.cancelled state = true) :
      Proceeds made state ⟨[], []⟩
        ⟨.error ⟨operation, min made maxAttemptCount, .interrupted, none⟩,
          policy.generator random made, state⟩
  | succeeded {made : Nat} {state after : σ} {value : α} (going : host.cancelled state = false)
      (called : attempt state = (.ok value, after)) :
      Proceeds made state ⟨[⟨state, .ok value, after⟩], []⟩
        ⟨.ok ⟨value, min (made + 1) maxAttemptCount⟩, policy.generator random made, after⟩
  | final {made : Nat} {state after : σ} {status : Status} (going : host.cancelled state = false)
      (called : attempt state = (.error status, after))
      (settled : judge status ≠ .transient) :
      Proceeds made state ⟨[⟨state, .error status, after⟩], []⟩
        ⟨.error ⟨operation, min (made + 1) maxAttemptCount,
            .nonRetryable (judge status), some status⟩,
          policy.generator random made,
          host.report (.notRetrying operation (min (made + 1) maxAttemptCount) status
            (judge status)) after⟩
  | exhausted {made : Nat} {state after : σ} {status : Status}
      (going : host.cancelled state = false) (called : attempt state = (.error status, after))
      (passing : judge status = .transient)
      (spent : affords host policy start random (made + 1)
        (⟨state, .error status, after⟩ : Call α σ) = false) :
      Proceeds made state ⟨[⟨state, .error status, after⟩], []⟩
        ⟨.error ⟨operation, min (made + 1) maxAttemptCount, .exhausted, some status⟩,
          policy.generator random (made + 1),
          host.report (.budgetExhausted operation (min (made + 1) maxAttemptCount) status) after⟩
  | interrupted {made : Nat} {state after : σ} {status : Status}
      (going : host.cancelled state = false) (called : attempt state = (.error status, after))
      (passing : judge status = .transient)
      (afforded : affords host policy start random (made + 1)
        (⟨state, .error status, after⟩ : Call α σ) = true)
      (cancelled : host.cancelled (waited host policy operation random (made + 1) status after) =
        true) :
      Proceeds made state
        ⟨[⟨state, .error status, after⟩],
          [⟨announce host policy operation random (made + 1) status after,
            policy.wait random (made + 1)⟩]⟩
        ⟨.error ⟨operation, min (made + 1) maxAttemptCount, .interrupted, some status⟩,
          policy.generator random (made + 1),
          waited host policy operation random (made + 1) status after⟩
  | again {made : Nat} {state after : σ} {status : Status} {later : Journal α σ}
      {finished : RetryRun α σ} (going : host.cancelled state = false)
      (called : attempt state = (.error status, after))
      (passing : judge status = .transient)
      (afforded : affords host policy start random (made + 1)
        (⟨state, .error status, after⟩ : Call α σ) = true)
      (uncancelled : host.cancelled
        (waited host policy operation random (made + 1) status after) = false)
      (proceeds : Proceeds (made + 1) (waited host policy operation random (made + 1) status after)
        later finished) :
      Proceeds made state
        ⟨⟨state, .error status, after⟩ :: later.calls,
          ⟨announce host policy operation random (made + 1) status after,
            policy.wait random (made + 1)⟩ :: later.waits⟩
        finished

end Runs

section Rounds

variable {host : Host σ} {policy : RetryPolicy} {judge : Status → Verdict} {operation : String}
  {attempt : σ → Except Status α × σ} {start : UInt64} {random : Random} {made : Nat}
  {state after : σ} {status : Status}

/-! ### One round -/

/-- One round in terms of the schedule and of the number of calls, which the count of attempts
only shows up to its limit. -/
theorem runFrom_succ (fuel : Nat) :
    runFrom host policy judge operation attempt start (fuel + 1) (min made maxAttemptCount)
        (policy.generator random made) state =
      if host.cancelled state then
        ⟨.error ⟨operation, min made maxAttemptCount, .interrupted, none⟩,
          policy.generator random made, state⟩
      else
        match attempt state with
        | (.ok value, after) =>
            ⟨.ok ⟨value, min (made + 1) maxAttemptCount⟩, policy.generator random made, after⟩
        | (.error status, after) =>
            if judge status ≠ .transient then
              ⟨.error ⟨operation, min (made + 1) maxAttemptCount,
                  .nonRetryable (judge status), some status⟩,
                policy.generator random made,
                host.report (.notRetrying operation (min (made + 1) maxAttemptCount) status
                  (judge status)) after⟩
            else if affords host policy start random (made + 1)
                (⟨state, .error status, after⟩ : Call α σ) then
              if host.cancelled (waited host policy operation random (made + 1) status after) then
                ⟨.error ⟨operation, min (made + 1) maxAttemptCount, .interrupted, some status⟩,
                  policy.generator random (made + 1),
                  waited host policy operation random (made + 1) status after⟩
              else
                runFrom host policy judge operation attempt start fuel
                  (min (made + 1) maxAttemptCount) (policy.generator random (made + 1))
                  (waited host policy operation random (made + 1) status after)
            else
              ⟨.error ⟨operation, min (made + 1) maxAttemptCount, .exhausted, some status⟩,
                policy.generator random (made + 1),
                host.report (.budgetExhausted operation (min (made + 1) maxAttemptCount) status)
                  after⟩ := by
  have counted : min (min made maxAttemptCount + 1) maxAttemptCount =
      min (made + 1) maxAttemptCount := by
    omega
  rw [runFrom]
  simp only [counted, policy.nextDelay_min, policy.shouldRetry_min]
  rfl

theorem runFrom_stopped (cancelled : host.cancelled state = true) (fuel : Nat) :
    runFrom host policy judge operation attempt start (fuel + 1) (min made maxAttemptCount)
        (policy.generator random made) state =
      ⟨.error ⟨operation, min made maxAttemptCount, .interrupted, none⟩,
        policy.generator random made, state⟩ := by
  rw [runFrom_succ, if_pos cancelled]

theorem runFrom_succeeded (going : host.cancelled state = false) {value : α}
    (called : attempt state = (.ok value, after)) (fuel : Nat) :
    runFrom host policy judge operation attempt start (fuel + 1) (min made maxAttemptCount)
        (policy.generator random made) state =
      ⟨.ok ⟨value, min (made + 1) maxAttemptCount⟩, policy.generator random made, after⟩ := by
  rw [runFrom_succ, going, called]
  rfl

theorem runFrom_final (going : host.cancelled state = false)
    (called : attempt state = (.error status, after))
    (settled : judge status ≠ .transient) (fuel : Nat) :
    runFrom host policy judge operation attempt start (fuel + 1) (min made maxAttemptCount)
        (policy.generator random made) state =
      ⟨.error ⟨operation, min (made + 1) maxAttemptCount,
          .nonRetryable (judge status), some status⟩,
        policy.generator random made,
        host.report (.notRetrying operation (min (made + 1) maxAttemptCount) status
          (judge status)) after⟩ := by
  rw [runFrom_succ, going, called]
  simp only [Bool.false_eq_true, if_false]
  rw [if_pos settled]

theorem runFrom_exhausted (going : host.cancelled state = false)
    (called : attempt state = (.error status, after))
    (passing : judge status = .transient)
    (spent : affords host policy start random (made + 1)
      (⟨state, .error status, after⟩ : Call α σ) = false) (fuel : Nat) :
    runFrom host policy judge operation attempt start (fuel + 1) (min made maxAttemptCount)
        (policy.generator random made) state =
      ⟨.error ⟨operation, min (made + 1) maxAttemptCount, .exhausted, some status⟩,
        policy.generator random (made + 1),
        host.report (.budgetExhausted operation (min (made + 1) maxAttemptCount) status)
          after⟩ := by
  rw [runFrom_succ, going, called]
  simp only [passing, spent, ne_eq, not_true_eq_false, Bool.false_eq_true, if_false]

theorem runFrom_interrupted (going : host.cancelled state = false)
    (called : attempt state = (.error status, after))
    (passing : judge status = .transient)
    (afforded : affords host policy start random (made + 1)
      (⟨state, .error status, after⟩ : Call α σ) = true)
    (cancelled : host.cancelled (waited host policy operation random (made + 1) status after) =
      true) (fuel : Nat) :
    runFrom host policy judge operation attempt start (fuel + 1) (min made maxAttemptCount)
        (policy.generator random made) state =
      ⟨.error ⟨operation, min (made + 1) maxAttemptCount, .interrupted, some status⟩,
        policy.generator random (made + 1),
        waited host policy operation random (made + 1) status after⟩ := by
  rw [runFrom_succ, going, called]
  simp only [passing, afforded, cancelled, ne_eq, not_true_eq_false, Bool.false_eq_true, if_false,
    if_true]

theorem runFrom_again (going : host.cancelled state = false)
    (called : attempt state = (.error status, after))
    (passing : judge status = .transient)
    (afforded : affords host policy start random (made + 1)
      (⟨state, .error status, after⟩ : Call α σ) = true)
    (uncancelled : host.cancelled
      (waited host policy operation random (made + 1) status after) = false) (fuel : Nat) :
    runFrom host policy judge operation attempt start (fuel + 1) (min made maxAttemptCount)
        (policy.generator random made) state =
      runFrom host policy judge operation attempt start fuel (min (made + 1) maxAttemptCount)
        (policy.generator random (made + 1))
        (waited host policy operation random (made + 1) status after) := by
  rw [runFrom_succ, going, called]
  simp only [passing, afforded, uncancelled, ne_eq, not_true_eq_false, Bool.false_eq_true,
    if_false, if_true]

/-! ### Whole runs -/

/-- The induction is on the calls left; the run whose calls are noted takes the same branch at
each of them. -/
theorem runFrom_proceeds (fuel : Nat) (before : Journal α σ) :
    let finished := runFrom host policy judge operation attempt start fuel
      (min made maxAttemptCount) (policy.generator random made) state
    ∃ later, Proceeds host policy judge operation attempt start random made state later
        finished ∧
      runFrom (journaled host) policy judge operation (noted attempt) start fuel
          (min made maxAttemptCount) (policy.generator random made) (before, state) =
        ⟨finished.outcome, finished.random, (before ++ later, finished.state)⟩ ∧
      (finished.Returned ∨ later.calls.length = fuel) := by
  induction fuel generalizing made state before with
  | zero => exact ⟨⟨[], []⟩, .unsettled, by rw [before.append_empty]; rfl, Or.inr rfl⟩
  | succ fuel inductionHypothesis =>
      by_cases cancelled : host.cancelled state = true
      · have stopped : (journaled host).cancelled (before, state) = true := cancelled
        rw [runFrom_stopped cancelled, runFrom_stopped stopped]
        exact ⟨⟨[], []⟩, .stopped cancelled, by rw [before.append_empty],
          Or.inl (by simp [RetryRun.Returned])⟩
      · have going : host.cancelled state = false := by simpa using cancelled
        have goingNoted : (journaled host).cancelled (before, state) = false := going
        cases called : attempt state with
        | mk answer after =>
          have calledNoted := noted_eq called before
          cases answer with
          | ok value =>
              rw [runFrom_succeeded going called, runFrom_succeeded goingNoted calledNoted]
              exact ⟨_, .succeeded going called, by rw [before.noteCall_eq_append],
                Or.inl (by simp [RetryRun.Returned])⟩
          | error status =>
              by_cases passing : judge status = .transient
              · cases afforded : affords host policy start random (made + 1)
                    (⟨state, .error status, after⟩ : Call α σ) with
                | false =>
                    rw [runFrom_exhausted going called passing afforded,
                      runFrom_exhausted goingNoted calledNoted passing afforded]
                    exact ⟨_, .exhausted going called passing afforded,
                      by rw [before.noteCall_eq_append]; rfl, Or.inl (by simp [RetryRun.Returned])⟩
                | true =>
                    cases ended : host.cancelled
                        (waited host policy operation random (made + 1) status after) with
                    | true =>
                        rw [runFrom_interrupted going called passing afforded ended,
                          runFrom_interrupted goingNoted calledNoted passing afforded ended]
                        refine ⟨_, .interrupted going called passing afforded ended, ?_,
                          Or.inl (by simp [RetryRun.Returned])⟩
                        rw [← before.noteWait_eq_append]
                        rfl
                    | false =>
                        rw [runFrom_again going called passing afforded ended,
                          runFrom_again goingNoted calledNoted passing afforded ended]
                        obtain ⟨later, proceeds, noted, counted⟩ :=
                          @inductionHypothesis (made + 1)
                            (waited host policy operation random (made + 1) status after)
                            ((before.noteCall ⟨state, .error status, after⟩).noteWait
                              ⟨announce host policy operation random (made + 1) status after,
                                policy.wait random (made + 1)⟩)
                        refine ⟨_, .again going called passing afforded ended proceeds, ?_, ?_⟩
                        · rw [← before.noteWait_append]
                          exact noted
                        · exact counted.imp_right (congrArg Nat.succ)
              · rw [runFrom_final going called passing,
                  runFrom_final goingNoted calledNoted passing]
                exact ⟨_, .final going called passing, by rw [before.noteCall_eq_append]; rfl,
                  Or.inl (by simp [RetryRun.Returned])⟩

/-- Noting changes nothing, and what is noted is how the run proceeds. -/
theorem run_proceeds (host : Host σ) (policy : RetryPolicy) (judge : Status → Verdict)
    (operation : String) (attempt : σ → Except Status α × σ) (random : Random) (state : σ) :
    let finished := runWith host policy judge operation attempt random state
    let noting := journal host policy judge operation attempt random state
    runWith (journaled host) policy judge operation (noted attempt) random (⟨[], []⟩, state) =
        ⟨finished.outcome, finished.random, (noting, finished.state)⟩ ∧
      Proceeds host policy judge operation attempt (host.now state) random 0 state noting
        finished ∧
      (finished.Returned ∨ noting.calls.length = callLimit) := by
  intro finished noting
  obtain ⟨later, proceeds, same, counted⟩ :=
    @runFrom_proceeds α σ host policy judge operation attempt (host.now state) random 0 state
      callLimit ⟨[], []⟩
  rw [Journal.empty_append] at same
  have noted : noting = later := congrArg (fun ended => ended.state.1) same
  rw [noted]
  exact ⟨same, proceeds, counted⟩

namespace Proceeds

variable {journal : Journal α σ} {finished : RetryRun α σ}

/-- What is noted of a call is what the operation did. -/
theorem called
    (proceeds : Proceeds host policy judge operation attempt start random made state journal
      finished) : ∀ call ∈ journal.calls, attempt call.before = (call.answer, call.after) := by
  induction proceeds with
  | unsettled => simp
  | stopped cancelled => simp
  | succeeded going called => simpa using called
  | final going called settled => simpa using called
  | exhausted going called passing spent => simpa using called
  | interrupted going called passing afforded cancelled => simpa using called
  | again going called passing afforded uncancelled proceeds inductionHypothesis =>
      exact List.forall_mem_cons.mpr ⟨called, inductionHypothesis⟩

/-- Every call but the last one failed for a passing reason, with room for another one. -/
theorem repeatable
    (proceeds : Proceeds host policy judge operation attempt start random made state journal
      finished) (index : Nat) (earlier : index + 1 < journal.calls.length) :
    ∃ status, journal.calls[index].answer = .error status ∧
      judge status = .transient ∧
      affords host policy start random (made + index + 1) journal.calls[index] = true := by
  induction proceeds generalizing index with
  | unsettled => simp at earlier
  | stopped cancelled => simp at earlier
  | succeeded going called => simp at earlier
  | final going called settled => simp at earlier
  | exhausted going called passing spent => simp at earlier
  | interrupted going called passing afforded cancelled => simp at earlier
  | @again made state after status later finished going called passing afforded uncancelled
      proceeds inductionHypothesis =>
      cases index with
      | zero => exact ⟨status, rfl, passing, afforded⟩
      | succ index =>
          have within : index + 1 < later.calls.length := by
            simp only [List.length_cons] at earlier
            omega
          have number : made + (index + 1) + 1 = made + 1 + index + 1 := by omega
          rw [number]
          exact inductionHypothesis index within

end Proceeds

end Rounds

section Endings

variable (host : Host σ) (policy : RetryPolicy) (judge : Status → Verdict) (operation : String)
  (start : UInt64) (random : Random)

/-- How a run ends with its last call, which has the given number. -/
inductive Ends (number : Nat) (last : Call α σ) : Except RetryError (Retried α) → Prop where
  | succeeded {value : α} (answered : last.answer = .ok value) :
      Ends number last (.ok ⟨value, min number maxAttemptCount⟩)
  | final {status : Status} (failed : last.answer = .error status)
      (settled : judge status ≠ .transient) :
      Ends number last
        (.error ⟨operation, min number maxAttemptCount,
          .nonRetryable (judge status), some status⟩)
  | exhausted {status : Status} (failed : last.answer = .error status)
      (passing : judge status = .transient)
      (spent : affords host policy start random number last = false) :
      Ends number last
        (.error ⟨operation, min number maxAttemptCount, .exhausted, some status⟩)
  | interrupted {status : Status} (failed : last.answer = .error status)
      (passing : judge status = .transient)
      (afforded : affords host policy start random number last = true)
      (going : host.cancelled last.before = false)
      (cancelled : host.cancelled
        (waited host policy operation random number status last.after) = true) :
      Ends number last
        (.error ⟨operation, min number maxAttemptCount, .interrupted, some status⟩)

variable {host policy judge operation start random} {attempt : σ → Except Status α × σ}
  {made : Nat} {state : σ} {journal : Journal α σ} {finished : RetryRun α σ}

/-- The induction is on the rounds: each but the last one leaves the end to those after it. -/
theorem Proceeds.ends
    (proceeds : Proceeds host policy judge operation attempt start random made state journal
      finished) (returned : finished.Returned) (going : host.cancelled state = false) :
    ∃ last, journal.calls.getLast? = some last ∧
      Ends host policy judge operation start random (made + journal.calls.length) last
        finished.outcome := by
  induction proceeds with
  | unsettled => exact absurd rfl (returned _ rfl)
  | stopped cancelled => exact absurd (going.symm.trans cancelled) Bool.false_ne_true
  | succeeded _ called => exact ⟨_, rfl, .succeeded rfl⟩
  | final _ called settled => exact ⟨_, rfl, .final rfl settled⟩
  | exhausted _ called passing spent => exact ⟨_, rfl, .exhausted rfl passing spent⟩
  | interrupted going called passing afforded cancelled =>
      exact ⟨_, rfl, .interrupted rfl passing afforded going cancelled⟩
  | @again made state after status later finished going called passing afforded uncancelled
      proceeds inductionHypothesis =>
      obtain ⟨last, found, ends⟩ := inductionHypothesis returned uncancelled
      refine ⟨last, by simp [List.getLast?_cons, found], ?_⟩
      have number : made + (later.calls.length + 1) = made + 1 + later.calls.length := by omega
      rw [List.length_cons, number]
      exact ends

/-- A run that finds itself cancelled makes no call. -/
theorem Proceeds.of_cancelled
    (proceeds : Proceeds host policy judge operation attempt start random made state journal
      finished) (returned : finished.Returned) (cancelled : host.cancelled state = true) :
    journal.calls = [] ∧
      finished.outcome = .error ⟨operation, min made maxAttemptCount, .interrupted, none⟩ := by
  cases proceeds with
  | unsettled => exact absurd rfl (returned _ rfl)
  | stopped _ => exact ⟨rfl, rfl⟩
  | succeeded going called => exact absurd (going.symm.trans cancelled) Bool.false_ne_true
  | final going called settled => exact absurd (going.symm.trans cancelled) Bool.false_ne_true
  | exhausted going called passing spent =>
      exact absurd (going.symm.trans cancelled) Bool.false_ne_true
  | interrupted going called passing afforded _ =>
      exact absurd (going.symm.trans cancelled) Bool.false_ne_true
  | again going called passing afforded uncancelled proceeds =>
      exact absurd (going.symm.trans cancelled) Bool.false_ne_true

end Endings

end Retry

end RowStream
