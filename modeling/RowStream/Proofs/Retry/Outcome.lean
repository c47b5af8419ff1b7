import RowStream.Client.Cued
import RowStream.Proofs.Retry.Counting
import RowStream.Proofs.Retry.Journal
import RowStream.Random.ChaCha
import RowStream.Store

/-!
Contract: the outcome of a run of retries, told by its calls.

Owns:
- `Host.LeavesToken`, a token that only the calls of an operation can cancel;
- `Retry.LastFailed`, the failure with which a run ends;
- the number of calls within the budget of a policy, and the number that a run reports.

Main statement: `Retry.run_outcome`.
-/

namespace RowStream

/-- Neither a wait nor a report cancels the token, or takes it back. -/
structure Host.LeavesToken {σ : Type} (host : Host σ) : Prop where
  sleep : ∀ duration state, host.cancelled (host.sleep duration state) = host.cancelled state
  report : ∀ event state, host.cancelled (host.report event state) = host.cancelled state

theorem Stage.host_leavesToken {σ : Type} (token : Option String) :
    (Stage.host token : Host (Stage σ)).LeavesToken where
  sleep _ _ := rfl
  report _ _ := rfl

namespace Retry

variable {α σ : Type} {host : Host σ} {policy : RetryPolicy} {judge : Status → Verdict}
  {operation : String} {attempt : σ → Except Status α × σ} {start : UInt64} {random : Random}
  {made : Nat} {state : σ} {journal : Journal α σ} {finished : RetryRun α σ}

/-- The attempts that a run reports are its calls, as far as the counter goes. -/
theorem Proceeds.attempts_eq
    (proceeds : Proceeds host policy judge operation attempt start random made state journal
      finished) : finished.attempts = min (made + journal.calls.length) maxAttemptCount := by
  induction proceeds with
  | unsettled => rfl
  | stopped cancelled => rfl
  | succeeded going called => rfl
  | final going called settled => rfl
  | exhausted going called passing spent => rfl
  | interrupted going called passing afforded cancelled => rfl
  | again going called passing afforded uncancelled proceeds inductionHypothesis =>
      rw [inductionHypothesis, List.length_cons]
      congr 1
      omega

/-- No run makes more calls than the policy allows. -/
theorem Proceeds.allows
    (proceeds : Proceeds host policy judge operation attempt start random 0 state journal
      finished) : policy.Allows journal.calls.length := by
  intro limited
  rcases Nat.lt_or_ge journal.calls.length 2 with few | several
  · omega
  · obtain ⟨_, _, _, afforded⟩ :=
      proceeds.repeatable (journal.calls.length - 2) (by omega)
    rw [affords, ← policy.shouldRetry_min] at afforded
    have left := lt_of_shouldRetry afforded limited
    omega

theorem waited_cancelled (leaves : host.LeavesToken) (number : Nat) (status : Status) (after : σ) :
    host.cancelled (waited host policy operation random number status after) =
      host.cancelled after := by
  rw [waited, leaves.sleep, announce, leaves.report]

/-- A call that succeeds decides, whatever became of the token. -/
theorem Ends.eq_ok_iff {number : Nat} {last : Call α σ} {outcome : Except RetryError (Retried α)}
    (ends : Ends host policy judge operation start random number last outcome)
    (retried : Retried α) :
    outcome = .ok retried ↔
      last.answer = .ok retried.value ∧ retried.attempts = min number maxAttemptCount := by
  cases ends with
  | succeeded answered =>
      rw [answered]
      constructor
      · intro same
        rw [← Except.ok.inj same]
        exact ⟨rfl, rfl⟩
      · rintro ⟨value, attempts⟩
        rw [Except.ok.inj value, ← attempts]
  | final failed settled => simp [failed]
  | exhausted failed passing spent => simp [failed]
  | interrupted failed passing afforded before cancelled => simp [failed]

def LastFailed (calls : List (Call α σ)) (Holds : Call α σ → Status → Prop) : Prop :=
  ∃ last status, calls.getLast? = some last ∧ last.answer = .error status ∧ Holds last status

/-- However the calls end, and whenever the token is cancelled: as long as the count of attempts
can show them, the calls of a run tell its outcome. Each of them but the last one failed for a
passing reason with room in both budgets for another one, and the last one decides. To note the
calls changes nothing. -/
theorem run_outcome (leaves : host.LeavesToken) (policy : RetryPolicy)
    (judge : Status → Verdict) (operation : String) (attempt : σ → Except Status α × σ)
    (random : Random) (state : σ)
    (shown : (Retry.journal host policy judge operation attempt random state).calls.length <
      UInt32.size) :
    let finished := runWith host policy judge operation attempt random state
    let journal := Retry.journal host policy judge operation attempt random state
    let calls := journal.calls
    let affords := fun (number : Nat) (call : Call α σ) =>
      policy.shouldRetry number (timeBetween (host.now state) (host.now call.after))
        (policy.wait random number)
    runWith (journaled host) policy judge operation (noted attempt) random (⟨[], []⟩, state) =
        ⟨finished.outcome, finished.random, (journal, finished.state)⟩ ∧
      finished.attempts = calls.length ∧
      (∀ index call, calls[index]? = some call → index + 1 < calls.length →
        ∃ status, call.answer = .error status ∧ judge status = .transient ∧
          affords (index + 1) call = true) ∧
      (∀ retried, finished.outcome = .ok retried ↔
        ∃ last, calls.getLast? = some last ∧ last.answer = .ok retried.value ∧
          retried.attempts = calls.length) ∧
      (∀ error, finished.outcome = .error error →
        (1 ≤ error.attempts →
            LastFailed calls fun _ status => error.lastStatus = some status) ∧
          match error.reason with
          | .nonRetryable verdict =>
              verdict ≠ .transient ∧
                LastFailed calls fun _ status => judge status = verdict
          | .exhausted =>
              LastFailed calls fun last status =>
                judge status = .transient ∧ affords calls.length last = false
          | .interrupted =>
              (host.cancelled state = true ∧ calls = [] ∧ error.attempts = 0 ∧
                  error.lastStatus = none) ∨
                LastFailed calls fun last status =>
                  judge status = .transient ∧
                    affords calls.length last = true ∧ host.cancelled last.before = false ∧
                    host.cancelled last.after = true
          | .unsettled => False) ∧
      (0 < policy.maxAttempts.toNat → finished.attempts ≤ policy.maxAttempts.toNat) := by
  intro finished journal calls affords
  obtain ⟨same, proceeds, counted⟩ :=
    run_proceeds host policy judge operation attempt random state
  have returned : finished.Returned := by
    refine counted.resolve_right fun many => ?_
    have limits : UInt32.size < callLimit := by decide
    omega
  have reported : finished.attempts = calls.length := by
    rw [proceeds.attempts_eq, Nat.zero_add]
    exact Nat.min_eq_left (Nat.le_of_lt_succ shown)
  refine ⟨same, reported, ?_, ?_, ?_, fun limited => reported ▸ proceeds.allows limited⟩
  · intro index call found earlier
    obtain ⟨_, rfl⟩ := List.getElem?_eq_some_iff.mp found
    have repeated := proceeds.repeatable index earlier
    rw [Nat.zero_add] at repeated
    exact repeated
  · intro retried
    cases going : host.cancelled state with
    | true =>
        obtain ⟨none, stopped⟩ := proceeds.of_cancelled returned going
        simp [calls, journal, none, finished, stopped]
    | false =>
        obtain ⟨last, found, ends⟩ := proceeds.ends returned going
        have number : min (0 + calls.length) maxAttemptCount = calls.length := by
          rw [← proceeds.attempts_eq]
          exact reported
        rw [ends.eq_ok_iff, number]
        constructor
        · rintro ⟨answered, attempts⟩
          exact ⟨last, found, answered, attempts⟩
        · rintro ⟨other, alsoFound, answered, attempts⟩
          rw [Option.some.inj (found.symm.trans alsoFound)]
          exact ⟨answered, attempts⟩
  · intro error gaveUp
    cases going : host.cancelled state with
    | true =>
        obtain ⟨none, stopped⟩ := proceeds.of_cancelled returned going
        rw [← Except.error.inj (stopped.symm.trans gaveUp)]
        exact ⟨fun made => absurd made (by simp), Or.inl ⟨rfl, none, rfl, rfl⟩⟩
    | false =>
        obtain ⟨last, found, ends⟩ := proceeds.ends returned going
        rw [gaveUp] at ends
        rw [Nat.zero_add] at ends
        cases ends with
        | final failed settled =>
            exact ⟨fun _ => ⟨last, _, found, failed, rfl⟩, settled, last, _, found, failed, rfl⟩
        | exhausted failed passing spent =>
            exact ⟨fun _ => ⟨last, _, found, failed, rfl⟩, last, _, found, failed, passing, spent⟩
        | interrupted failed passing afforded before cancelled =>
            rw [waited_cancelled leaves] at cancelled
            exact ⟨fun _ => ⟨last, _, found, failed, rfl⟩,
              Or.inr ⟨last, _, found, failed, passing, afforded, before, cancelled⟩⟩

/-- A service that is busy twice and refuses a third time, while somebody cancels: the third
failure is the end, although both budgets leave room. -/
theorem run_outcome_of_interruption :
    let host : Host (Stage (Cues × Store)) := Stage.host (some "main")
    let attempt := Store.client.withCues.finalize "stream"
    let state : Stage (Cues × Store) :=
      { backend :=
          ({ finalize :=
              [{ advance := some (.ofMillis 3), reply := some (.error (.unavailable "busy")) },
                { reply := some (.error (.unavailable "busy")) },
                { cancel := some "main", reply := some (.error (.unavailable "gone")) }] }, {}) }
    let judge := Verdict.ofStatus Verdict.standardRetryable
    let finished := runWith host .brief judge "finalize" attempt (.seeded 1) state
    let calls := (Retry.journal host .brief judge "finalize" attempt (.seeded 1) state).calls
    host.LeavesToken ∧ calls.length = 3 ∧ finished.attempts = 3 ∧
      finished.outcome =
        .error ⟨"finalize", 3, .interrupted, some (.unavailable "gone")⟩ ∧
      LastFailed calls fun last status =>
        judge status = .transient ∧
          RetryPolicy.brief.shouldRetry 3 (timeBetween 0 (host.now last.after))
            (RetryPolicy.brief.wait (.seeded 1) 3) = true ∧
          host.cancelled last.before = false ∧ host.cancelled last.after = true := by
  intro host attempt state judge finished calls
  have three : calls.length = 3 := by decide +kernel
  have gaveUp : finished.outcome =
      .error ⟨"finalize", 3, .interrupted, some (.unavailable "gone")⟩ :=
    RetryRun.error?_eq_some_iff.mp (by decide +kernel)
  have leaves : host.LeavesToken := Stage.host_leavesToken (some "main")
  have shown : calls.length < UInt32.size := by
    rw [three]
    decide
  obtain ⟨_, reported, _, _, told, _⟩ :=
    run_outcome leaves .brief judge "finalize" attempt (.seeded 1) state shown
  obtain ⟨_, none | stopped⟩ := told _ gaveUp
  · exact absurd none.2.2.1 (by decide)
  · refine ⟨leaves, three, reported.trans three, gaveUp, ?_⟩
    rw [three] at stopped
    exact stopped

end Retry

end RowStream
