import RowStream.Proofs.Retry.Outcome

/-!
Contract: the times of the calls and waits of a run of retries on a simulated clock.

Owns:
- `RetryRun.Interrupted`, and the number of waits of a run, told by the number of its calls;
- `Retry.Elapses`, the clock alone during a run: calls move it in any way, waits by their length;
- the waits that a budget of time allows, and the calls that start within it.

Main statement: `Retry.run_schedule`. The budget is checked before a wait, and the call after it
starts when the wait is over, so that no call starts too late, though it may end so.
-/

namespace RowStream

def RetryRun.Interrupted {α σ : Type} (finished : RetryRun α σ) : Prop :=
  ∃ error, finished.outcome = .error error ∧ error.reason = .interrupted

/-- The last moment that a policy gives a run, in whole milliseconds. -/
def RetryPolicy.deadline (policy : RetryPolicy) (start : UInt64) : Nat :=
  start.toNat + policy.totalTimeout.millis

namespace Retry

section Rounds

variable {α σ : Type} {host : Host σ} {policy : RetryPolicy} {judge : Status → Verdict}
  {operation : String} {attempt : σ → Except Status α × σ} {start : UInt64} {random : Random}
  {made : Nat} {state : σ} {journal : Journal α σ} {finished : RetryRun α σ}

/-- A run waits after each of its calls, but not after one that decides. -/
theorem Proceeds.rounds
    (proceeds : Proceeds host policy judge operation attempt start random made state journal
      finished) :
    (journal.waits.length = journal.calls.length ∧
        (finished.Interrupted ∨ ¬ finished.Returned)) ∨
      (journal.waits.length + 1 = journal.calls.length ∧ finished.Returned ∧
        ¬ finished.Interrupted) := by
  induction proceeds with
  | unsettled => exact Or.inl ⟨rfl, Or.inr fun returned => returned _ rfl rfl⟩
  | stopped cancelled => exact Or.inl ⟨rfl, Or.inl ⟨_, rfl, rfl⟩⟩
  | succeeded going called =>
      exact Or.inr ⟨rfl, by simp [RetryRun.Returned], by simp [RetryRun.Interrupted]⟩
  | final going called settled =>
      exact Or.inr ⟨rfl, by simp [RetryRun.Returned], by simp [RetryRun.Interrupted]⟩
  | exhausted going called passing spent =>
      exact Or.inr ⟨rfl, by simp [RetryRun.Returned], by simp [RetryRun.Interrupted]⟩
  | interrupted going called passing afforded cancelled =>
      exact Or.inl ⟨rfl, Or.inl ⟨_, rfl, rfl⟩⟩
  | again going called passing afforded uncancelled proceeds inductionHypothesis =>
      simpa using inductionHypothesis

/-- There is a wait between every two calls, and one more where the run was interrupted in it. -/
theorem Proceeds.waits_length
    (proceeds : Proceeds host policy judge operation attempt start random made state journal
      finished) (returned : finished.Returned) :
    (finished.Interrupted → journal.waits.length = journal.calls.length) ∧
      (¬ finished.Interrupted → journal.waits.length + 1 = journal.calls.length) := by
  rcases proceeds.rounds with ⟨waited, interrupted | lost⟩ | ⟨decided, _, uninterrupted⟩
  · exact ⟨fun _ => waited, fun uninterrupted => absurd interrupted uninterrupted⟩
  · exact absurd returned lost
  · exact ⟨fun interrupted => absurd interrupted uninterrupted, fun _ => decided⟩

/-- The waits are those of the policy, in their order. -/
theorem Proceeds.wait_eq
    (proceeds : Proceeds host policy judge operation attempt start random made state journal
      finished) (index : Nat) (within : index < journal.waits.length) :
    journal.waits[index].duration = policy.wait random (made + index + 1) := by
  induction proceeds generalizing index with
  | unsettled => simp at within
  | stopped cancelled => simp at within
  | succeeded going called => simp at within
  | final going called settled => simp at within
  | exhausted going called passing spent => simp at within
  | interrupted going called passing afforded cancelled =>
      obtain rfl : index = 0 := by simpa using within
      rfl
  | @again made state after status later finished going called passing afforded uncancelled
      proceeds inductionHypothesis =>
      cases index with
      | zero => rfl
      | succ index =>
          have number : made + (index + 1) + 1 = made + 1 + index + 1 := by omega
          rw [number]
          exact inductionHypothesis index (Nat.lt_of_succ_lt_succ within)

end Rounds

/-! ### The clock -/

section Clocks

variable {α β : Type}

/-- How the clock goes during a run. -/
inductive Elapses : SimClock → Journal α (Stage β) → SimClock → Prop where
  | rest {clock : SimClock} : Elapses clock ⟨[], []⟩ clock
  | called (call : Call α (Stage β)) : Elapses call.before.clock ⟨[call], []⟩ call.after.clock
  | waited (call : Call α (Stage β)) {wait : Wait (Stage β)} {later : Journal α (Stage β)}
      {finish : SimClock} (asked : wait.before.clock = call.after.clock)
      (elapses : Elapses (wait.before.clock.sleep wait.duration) later finish) :
      Elapses call.before.clock ⟨call :: later.calls, wait :: later.waits⟩ finish

namespace Elapses

variable {clock finish : SimClock} {journal : Journal α (Stage β)} {took : Stage β → Duration}

/-- The clock remembers every wait. -/
theorem sleeps_eq (elapses : Elapses clock journal finish)
    (moved : ∀ call ∈ journal.calls,
      call.after.clock = call.before.clock.advance (took call.before)) :
    finish.sleeps.toList = clock.sleeps.toList ++ journal.waits.map Wait.duration := by
  induction elapses with
  | rest => simp
  | called call => simp [moved call (List.mem_singleton_self call)]
  | waited call asked elapses inductionHypothesis =>
      obtain ⟨first, others⟩ := List.forall_mem_cons.mp moved
      rw [inductionHypothesis others, SimClock.sleeps_sleep, asked, first,
        SimClock.sleeps_advance, Array.toList_push, List.map_cons, List.append_assoc]
      rfl

end Elapses

def Wait.over (wait : Wait (Stage β)) : Nat :=
  wait.before.clock.now.toNat + wait.duration.millis

/-- The clock moves by the wait, unless it wraps around. -/
theorem Wait.toNat_now_slept {wait : Wait (Stage β)} (unwrapped : wait.over < UInt64.size) :
    (wait.before.clock.sleep wait.duration).now.toNat = wait.over :=
  SimClock.toNat_now_sleep unwrapped

/-- Neither a call nor a wait takes the clock beyond its last millisecond. -/
structure Unwrapped (took : Stage β → Duration) (journal : Journal α (Stage β)) : Prop where
  calls : ∀ call ∈ journal.calls,
    call.before.clock.now.toNat + (took call.before).millis < UInt64.size
  waits : ∀ wait ∈ journal.waits, wait.over < UInt64.size

namespace Elapses

variable {clock finish : SimClock} {journal : Journal α (Stage β)} {took : Stage β → Duration}

/-- Nothing but the calls and the waits takes time. -/
theorem now_eq (elapses : Elapses clock journal finish)
    (moved : ∀ call ∈ journal.calls,
      call.after.clock = call.before.clock.advance (took call.before))
    (unwrapped : Unwrapped took journal) :
    finish.now.toNat =
      clock.now.toNat + Duration.totalMillis (journal.waits.map Wait.duration) +
        Duration.totalMillis (journal.calls.map fun call => took call.before) := by
  induction elapses with
  | rest => rfl
  | called call =>
      have member := List.mem_singleton_self call
      rw [moved call member, SimClock.toNat_now_advance (unwrapped.calls call member)]
      simp
  | @waited call wait later finish asked elapses inductionHypothesis =>
      obtain ⟨firstCall, otherCalls⟩ := List.forall_mem_cons.mp unwrapped.calls
      obtain ⟨firstWait, otherWaits⟩ := List.forall_mem_cons.mp unwrapped.waits
      obtain ⟨first, others⟩ := List.forall_mem_cons.mp moved
      have left : wait.before.clock.now.toNat =
          call.before.clock.now.toNat + (took call.before).millis := by
        rw [asked, first, SimClock.toNat_now_advance firstCall]
      have slept := Wait.toNat_now_slept firstWait
      have whole := inductionHypothesis others ⟨otherCalls, otherWaits⟩
      simp only [List.map_cons, Duration.totalMillis_cons]
      rw [whole, slept, Wait.over]
      omega

/-- If every wait ends within a bound, then every call starts within it, and the run ends within
it if no call takes time. -/
theorem within_bound {bound : Nat} (elapses : Elapses clock journal finish)
    (unwrapped : ∀ wait ∈ journal.waits, wait.over < UInt64.size)
    (within : ∀ wait ∈ journal.waits, wait.over ≤ bound)
    (timely : clock.now.toNat ≤ bound) :
    (∀ call ∈ journal.calls, call.before.clock.now.toNat ≤ bound) ∧
      ((∀ call ∈ journal.calls, call.after.clock.now = call.before.clock.now) →
        finish.now.toNat ≤ bound) := by
  induction elapses with
  | rest => exact ⟨by simp, fun _ => timely⟩
  | called call =>
      refine ⟨by simpa using timely, fun instant => ?_⟩
      rw [instant call (List.mem_singleton_self call)]
      exact timely
  | @waited call wait later finish asked elapses inductionHypothesis =>
      obtain ⟨firstWait, otherWaits⟩ := List.forall_mem_cons.mp unwrapped
      obtain ⟨first, others⟩ := List.forall_mem_cons.mp within
      have slept : (wait.before.clock.sleep wait.duration).now.toNat ≤ bound := by
        rw [Wait.toNat_now_slept firstWait]
        exact first
      obtain ⟨starts, ends⟩ := inductionHypothesis otherWaits others slept
      exact ⟨List.forall_mem_cons.mpr ⟨timely, starts⟩,
        fun instant => ends (List.forall_mem_cons.mp instant).2⟩

end Elapses

end Clocks

section Stages

variable {α β : Type} {token : Option String} {policy : RetryPolicy}
  {judge : Status → Verdict} {operation : String}
  {attempt : Stage β → Except Status α × Stage β} {start : UInt64} {random : Random} {made : Nat}
  {stage : Stage β} {journal : Journal α (Stage β)} {finished : RetryRun α (Stage β)}

/-- Reports leave the clock alone. -/
theorem Proceeds.elapses
    (proceeds : Proceeds (Stage.host token) policy judge operation attempt start random made
      stage journal finished) : Elapses stage.clock journal finished.state.clock := by
  induction proceeds with
  | unsettled => exact .rest
  | stopped cancelled => exact .rest
  | @succeeded made stage after value going called => exact .called ⟨stage, .ok value, after⟩
  | @final made stage after status going called settled =>
      exact .called ⟨stage, .error status, after⟩
  | @exhausted made stage after status going called passing spent =>
      exact .called ⟨stage, .error status, after⟩
  | @interrupted made stage after status going called passing afforded cancelled =>
      exact .waited ⟨stage, .error status, after⟩ rfl .rest
  | @again made stage after status later finished going called passing afforded uncancelled
      proceeds inductionHypothesis =>
      exact .waited ⟨stage, .error status, after⟩ rfl inductionHypothesis

/-- A wait that is afforded ends within the budget. -/
theorem millis_le_of_affords (limited : policy.totalTimeout ≠ .zero) {number : Nat}
    {call : Call α (Stage β)}
    (afforded : affords (Stage.host token) policy start random number call = true) :
    call.after.clock.now.toNat + (policy.wait random number).millis ≤ policy.deadline start := by
  have enough := RetryPolicy.le_totalTimeout_of_shouldRetry limited afforded
  have whole : (policy.wait random number).nanos =
      1000000 * (policy.wait random number).millis := by
    rw [← Duration.nanos_ofMillis, RetryPolicy.wait, policy.ofMillis_millis_nextDelay]
  rw [Duration.le_iff_nanos_le, Duration.nanos_add, timeBetween, Duration.nanos_ofMillis,
    whole] at enough
  have now : ((Stage.host token).now call.after).toNat = call.after.clock.now.toNat := rfl
  have total : policy.totalTimeout.millis = policy.totalTimeout.nanos / 1000000 := rfl
  rw [RetryPolicy.deadline]
  omega

/-- A wait is asked for only if it ends in time. -/
theorem Proceeds.waits_within
    (proceeds : Proceeds (Stage.host token) policy judge operation attempt start random made
      stage journal finished) (limited : policy.totalTimeout ≠ .zero) :
    ∀ wait ∈ journal.waits, wait.over ≤ policy.deadline start := by
  induction proceeds with
  | unsettled => simp
  | stopped cancelled => simp
  | succeeded going called => simp
  | final going called settled => simp
  | exhausted going called passing spent => simp
  | interrupted going called passing afforded cancelled =>
      exact List.forall_mem_cons.mpr ⟨millis_le_of_affords limited afforded, by simp⟩
  | again going called passing afforded uncancelled proceeds inductionHypothesis =>
      exact List.forall_mem_cons.mpr
        ⟨millis_le_of_affords limited afforded, inductionHypothesis⟩

/-- Whatever time the calls take: on a clock that does not wrap around, a run waits after each of
its calls but one that decides, for the time that its policy says; nothing but calls and waits
takes time; and if there is a budget of time, then every call starts within it, and the run ends
within it if its calls take no time. -/
theorem run_schedule (token : Option String) (policy : RetryPolicy) (judge : Status → Verdict)
    (operation : String) (attempt : Stage β → Except Status α × Stage β)
    (took : Stage β → Duration)
    (moves : ∀ stage, (attempt stage).2.clock = stage.clock.advance (took stage))
    (random : Random) (stage : Stage β)
    (returned :
      (runWith (Stage.host token) policy judge operation attempt random stage).Returned)
    (unwrapped : Unwrapped took
      (Retry.journal (Stage.host token) policy judge operation attempt random stage)) :
    let finished := runWith (Stage.host token) policy judge operation attempt random stage
    let calls :=
      (Retry.journal (Stage.host token) policy judge operation attempt random stage).calls
    let sleeps := finished.state.clock.sleepsSince stage.clock
    finished.state.clock.sleeps.toList = stage.clock.sleeps.toList ++ sleeps ∧
      finished.attempts = min calls.length maxAttemptCount ∧
      (finished.Interrupted → sleeps.length = calls.length) ∧
      (¬ finished.Interrupted → sleeps.length + 1 = calls.length) ∧
      (∀ index sleep, sleeps[index]? = some sleep →
        sleep ≤ policy.baseDelay (index + 1) ∧
          (policy.jittered = false → sleep = policy.baseDelay (index + 1))) ∧
      finished.state.clock.now.toNat =
        stage.clock.now.toNat + Duration.totalMillis sleeps +
          Duration.totalMillis (calls.map fun call => took call.before) ∧
      (policy.totalTimeout ≠ .zero →
        (∀ call ∈ calls, Duration.ofMillis call.before.clock.now.toNat ≤
            .ofMillis stage.clock.now.toNat + policy.totalTimeout) ∧
          ((∀ call ∈ calls, (took call.before).millis = 0) →
            Duration.ofMillis finished.state.clock.now.toNat ≤
              .ofMillis stage.clock.now.toNat + policy.totalTimeout)) := by
  intro finished calls sleeps
  obtain ⟨_, proceeds, _⟩ :=
    run_proceeds (Stage.host token) policy judge operation attempt random stage
  let journal := Retry.journal (Stage.host token) policy judge operation attempt random stage
  have elapses : Elapses stage.clock journal finished.state.clock := proceeds.elapses
  have moved : ∀ call ∈ journal.calls,
      call.after.clock = call.before.clock.advance (took call.before) := by
    intro call member
    rw [← moves, proceeds.called call member]
  have remembered := elapses.sleeps_eq moved
  have slept : sleeps = journal.waits.map Wait.duration := SimClock.sleepsSince_eq remembered
  have waits : sleeps.length = journal.waits.length := by rw [slept, List.length_map]
  obtain ⟨interrupted, decided⟩ := proceeds.waits_length returned
  refine ⟨slept ▸ remembered, ?_, fun ended => waits.trans (interrupted ended),
    fun ended => waits ▸ decided ended, ?_, ?_, ?_⟩
  · rw [proceeds.attempts_eq, Nat.zero_add]
  · intro index sleep found
    have asked : sleep = policy.wait random (index + 1) := by
      rw [slept, List.getElem?_map, Option.map_eq_some_iff] at found
      obtain ⟨wait, noted, rfl⟩ := found
      obtain ⟨within, rfl⟩ := List.getElem?_eq_some_iff.mp noted
      have counted := proceeds.wait_eq index within
      rw [Nat.zero_add] at counted
      exact counted
    rw [asked]
    refine ⟨policy.nextDelay_le_baseDelay _ _, fun steady => ?_⟩
    rw [RetryPolicy.wait, RetryPolicy.nextDelay_of_not_jittered steady]
  · rw [elapses.now_eq moved unwrapped, slept]
  · intro limited
    have timely : stage.clock.now.toNat ≤ policy.deadline stage.clock.now := Nat.le_add_right _ _
    have bounded (now : Nat) (inTime : now ≤ policy.deadline stage.clock.now) :
        Duration.ofMillis now ≤ .ofMillis stage.clock.now.toNat + policy.totalTimeout := by
      rw [Duration.ofMillis_le_iff, Duration.millis_ofMillis_add]
      exact inTime
    obtain ⟨starts, ends⟩ :=
      elapses.within_bound unwrapped.waits (proceeds.waits_within limited) timely
    refine ⟨fun call member => bounded _ (starts call member), fun instant => bounded _ (ends ?_)⟩
    intro call member
    rw [moved call member]
    exact SimClock.now_advance_of_millis (instant call member)

/-- A service that is busy for three milliseconds, is busy again, and is cancelled at the third
call: the third wait is asked for all the same. -/
theorem run_schedule_of_interruption :
    let token := some "main"
    let attempt := Store.client.withCues.finalize "stream"
    let took := fun stage : Stage (Cues × Store) => Cue.time stage.backend.1.finalize.head?
    let busy : Except Status Nat := .error (.unavailable "busy")
    let stage : Stage (Cues × Store) :=
      { backend :=
          ({ finalize :=
              [{ advance := some (.ofMillis 3), reply := some busy }, { reply := some busy },
                { cancel := some "main", reply := some busy }] }, {})
        clock := { now := 100, sleeps := #[.ofMillis 7] } }
    let judge := Verdict.ofStatus Verdict.standardRetryable
    let finished := runWith (Stage.host token) .brief judge "finalize" attempt (.seeded 1) stage
    let journal :=
      Retry.journal (Stage.host token) .brief judge "finalize" attempt (.seeded 1) stage
    let sleeps := finished.state.clock.sleepsSince stage.clock
    (∀ stage, (attempt stage).2.clock = stage.clock.advance (took stage)) ∧
      finished.Returned ∧ Unwrapped took journal ∧
      finished.Interrupted ∧ journal.calls.length = 3 ∧ sleeps.length = journal.calls.length ∧
      (∀ index sleep, sleeps[index]? = some sleep →
        sleep = RetryPolicy.brief.baseDelay (index + 1)) ∧
      finished.state.clock.now.toNat =
        100 + Duration.totalMillis sleeps +
          Duration.totalMillis (journal.calls.map fun call => took call.before) ∧
      ∀ call ∈ journal.calls, Duration.ofMillis call.before.clock.now.toNat ≤
        .ofMillis 100 + RetryPolicy.brief.totalTimeout := by
  intro token attempt took busy stage judge
  have gaveUp :
      (runWith (Stage.host token) .brief judge "finalize" attempt (.seeded 1) stage).outcome =
        .error ⟨"finalize", 3, .interrupted, some (.unavailable "busy")⟩ :=
    RetryRun.error?_eq_some_iff.mp (by decide +kernel)
  have moves : ∀ stage, (attempt stage).2.clock = stage.clock.advance (took stage) :=
    Client.clock_finalize_withCues Store.client "stream"
  have returned :
      (runWith (Stage.host token) .brief judge "finalize" attempt (.seeded 1) stage).Returned := by
    intro error reported
    rw [← Except.error.inj (gaveUp.symm.trans reported)]
    decide
  have unwrapped : Unwrapped took
      (Retry.journal (Stage.host token) .brief judge "finalize" attempt (.seeded 1) stage) :=
    ⟨by decide +kernel, by decide +kernel⟩
  obtain ⟨_, _, waited, _, lengths, ended, limited⟩ :=
    run_schedule token .brief judge "finalize" attempt took moves (.seeded 1) stage returned
      unwrapped
  exact ⟨moves, returned, unwrapped, ⟨_, gaveUp, rfl⟩, by decide +kernel,
    waited ⟨_, gaveUp, rfl⟩, fun index sleep found => (lengths index sleep found).2 rfl, ended,
    (limited (by decide)).1⟩

end Stages

end Retry

end RowStream
