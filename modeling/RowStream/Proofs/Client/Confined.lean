import RowStream.Proofs.Client.Serving
import RowStream.Proofs.Retry.Induction

/-!
Contract: what the requests of one session change in a service that they end at.

Owns:
- `Still` and `Within`, two states between which no stream changed, or one at most;
- for each request of a session to an environment that `Serves`, the streams it leaves
  alone, what it makes of its own stream, and that it can only fail by a fault if nothing
  is scripted;
- `attempts_run`, the same for attempts at a request, whatever the policy, from which those to
  create and to finalize a stream follow.
-/

namespace RowStream

variable {σ : Type} {environment : Environment σ} {store : σ → Store} {faults : σ → Nat}

/-- No record changed, and the count of faults did not go back. -/
structure Still (store : σ → Store) (faults : σ → Nat) (before after : σ) : Prop where
  records : Store.SameRecords (store before) (store after)
  faults_le : faults before ≤ faults after

/-- At most the record of one stream changed, and the count of faults did not go back. -/
structure Within (store : σ → Store) (faults : σ → Nat) (stream : String) (before after : σ) :
    Prop where
  confined : Store.ConfinedTo stream (store before) (store after)
  faults_le : faults before ≤ faults after

namespace Still

variable {first second third : σ}

theorem refl (state : σ) : Still store faults state state :=
  ⟨Store.SameRecords.refl _, Nat.le_refl _⟩

theorem trans (left : Still store faults first second) (right : Still store faults second third) :
    Still store faults first third :=
  ⟨left.records.trans right.records, Nat.le_trans left.faults_le right.faults_le⟩

theorem within (still : Still store faults first second) (stream : String) :
    Within store faults stream first second :=
  ⟨still.records.confined stream, still.faults_le⟩

/-- Nothing changes between states that show the same store and the same faults. -/
theorem of_eq (same : store second = store first ∧ faults second = faults first) :
    Still store faults first second where
  records := by
    rw [same.1]
    exact Store.SameRecords.refl _
  faults_le := Nat.le_of_eq same.2.symm

/-- A fault that struck before the store was reached changes no record. -/
theorem of_struck (untouched : store second = store first)
    (struck : faults first < faults second) : Still store faults first second where
  records := by
    rw [untouched]
    exact Store.SameRecords.refl _
  faults_le := Nat.le_of_lt struck

theorem find? (still : Still store faults first second) (stream : String) :
    (store second).find? stream = (store first).find? stream :=
  still.records.records stream

end Still

namespace Within

variable {stream : String} {first second third : σ}

theorem trans (left : Within store faults stream first second)
    (right : Within store faults stream second third) : Within store faults stream first third :=
  ⟨left.confined.trans right.confined, Nat.le_trans left.faults_le right.faults_le⟩

end Within

namespace Serves

variable {stream : String} {state after : σ} {record : StreamRecord}

theorem report_still (serves : Serves environment store faults) (event : Event) (state : σ) :
    Still store faults state (environment.host.report event state) :=
  .of_eq (serves.report event state)

theorem sleep_still (serves : Serves environment store faults) (duration : Duration) (state : σ) :
    Still store faults state (environment.host.sleep duration state) :=
  .of_eq (serves.sleep duration state)

theorem bind_still (serves : Serves environment store faults) {schema : Schema}
    {answer : Except SystemError Appender}
    (called : environment.client.bind stream schema state = (answer, after)) :
    Still store faults state after ∧
      (∀ appender, answer = .ok appender → appender = { stream := stream }) ∧
      ((store state).script = {} → ∃ appender, answer = .ok appender) := by
  have delivery := serves.bind stream schema state
  rw [called] at delivery
  cases delivery with
  | refused refusal untouched struck => exact absurd refusal id
  | touched serving touch struck => exact absurd touch id
  | reached served quiet =>
      have records := Store.bind_records stream schema (store state)
      rw [served] at records
      refine ⟨⟨records, Nat.le_of_eq quiet.symm⟩, ?_, ?_⟩
      · intro appender answered
        rw [answered] at served
        exact Store.bind_ok served
      · intro unscripted
        have bound := Store.bind_of_unscripted stream schema unscripted
        rw [served] at bound
        exact ⟨_, bound⟩

theorem close_still (serves : Serves environment store faults) {appender : Appender}
    {answer : Except Status Unit}
    (called : environment.client.close appender state = (answer, after)) :
    Still store faults state after := by
  have delivery := serves.close appender state
  rw [called] at delivery
  cases delivery with
  | refused refusal untouched struck => exact absurd refusal id
  | touched serving touch struck => exact absurd touch id
  | reached served quiet =>
      have records := Store.close_records appender (store state)
      rw [served] at records
      exact ⟨records, Nat.le_of_eq quiet.symm⟩

/-- An append where the stream ends either leaves the stream as it is, and is then not
acknowledged, or writes the batch behind its rows. -/
theorem append_within (serves : Serves environment store faults)
    (found : (store state).find? stream = some record) (unfinished : record.finalized = false)
    {batch : Batch} {reply : AppendReply}
    (called : environment.client.append { stream := stream } batch
      (UInt64.ofNat record.rows.size) state = (reply, after)) :
    Within store faults stream state after ∧
      ((store after).find? stream = some record ∧ (∀ offset, reply ≠ .appended offset) ∨
        (store after).find? stream = some (record.extend batch)) := by
  have delivery :=
    serves.append { stream := stream } batch (UInt64.ofNat record.rows.size) state
  rw [called] at delivery
  cases delivery with
  | reached served quiet =>
      have written := Store.append_at_end_records found unfinished served
      exact ⟨⟨written.1, Nat.le_of_eq quiet.symm⟩, written.2⟩
  | refused refusal untouched struck =>
      obtain ⟨status, rejected⟩ := refusal
      have still := Still.of_struck untouched struck
      exact ⟨still.within stream, Or.inl
        ⟨(still.find? stream).trans found, fun _ => by simp [rejected]⟩⟩
  | touched serving touch struck =>
      have written := Store.append_at_end_records found unfinished serving
      refine ⟨⟨written.1, Nat.le_of_lt struck⟩, ?_⟩
      rcases written.2 with ⟨same, unacknowledged⟩ | extended
      · refine Or.inl ⟨same, ?_⟩
        intro offset answered
        obtain ⟨actual, acknowledged⟩ := touch offset answered
        exact unacknowledged actual acknowledged
      · exact Or.inr extended

/-- Without a script and without a fault, an append where the stream ends is acknowledged. -/
theorem append_of_quiet (serves : Serves environment store faults)
    (found : (store state).find? stream = some record) (unfinished : record.finalized = false)
    (unscripted : (store state).script = {}) {batch : Batch} {reply : AppendReply}
    (called : environment.client.append { stream := stream } batch
      (UInt64.ofNat record.rows.size) state = (reply, after))
    (quiet : faults after = faults state) :
    reply = .appended (UInt64.ofNat record.rows.size) := by
  have delivery :=
    serves.append { stream := stream } batch (UInt64.ofNat record.rows.size) state
  rw [called] at delivery
  cases delivery with
  | reached served _ =>
      have answer := Store.append_at_end_of_unscripted found unfinished unscripted batch
      rw [served] at answer
      exact answer
  | refused refusal untouched struck => omega
  | touched serving touch struck => omega

/-! ### Attempts -/

/-- However often a request is attempted that only a script or a fault keeps from succeeding:
once it succeeds the store serves it in the records there were at the beginning, and until then
nothing has changed. Unless it was cancelled, it fails only if a fault strikes or something is
scripted. -/
theorem attempts_run {α : Type} {attempt : σ → Except Status α × σ}
    {serve : Store → Except Status α × Store} (serves : Serves environment store faults)
    (state : σ)
    (delivered : ∀ reached,
      Delivery store faults serve IsError (fun _ _ => False) reached (attempt reached))
    (failing : ∀ {held status later}, serve held = (.error status, later) →
      Store.SameRecords held later)
    (willing : ∀ reached, Still store faults state reached → (store reached).script = {} →
      ∃ value, (serve (store reached)).1 = .ok value)
    (policy : RetryPolicy) (retryable : List StatusCode) (operation : String)
    (random : Random) :
    let ended := Retry.run environment.host policy retryable operation attempt random state
    (∀ retried, ended.outcome = .ok retried →
      ∃ reached, Still store faults state reached ∧ faults reached ≤ faults ended.state ∧
        serve (store reached) = (.ok retried.value, store ended.state)) ∧
      (∀ error, ended.outcome = .error error →
        Still store faults state ended.state ∧
          (environment.host.cancelled state = false → (store state).script = {} →
            faults state < faults ended.state)) := by
  have attempts := @Retry.run_induction α σ environment.host attempt (Still store faults state)
    (fun reached => Still store faults state reached ∧
      ((store state).script = {} → faults state < faults reached))
    (fun value after => ∃ reached, Still store faults state reached ∧
      faults reached ≤ faults after ∧ serve (store reached) = (.ok value, store after))
    (fun reached failed => failed.1)
    -- Reports and waits fall between a failed attempt and the next one.
    (fun event reached failed => by
      have same := serves.report event reached
      exact ⟨failed.1.trans (.of_eq same), fun unscripted => same.2 ▸ failed.2 unscripted⟩)
    (fun duration reached failed => by
      have same := serves.sleep duration reached
      exact ⟨failed.1.trans (.of_eq same), fun unscripted => same.2 ▸ failed.2 unscripted⟩)
    ?fails ?succeeds policy retryable operation random state (.refl state)
  case fails =>
    intro reached status after still called
    have delivery := delivered reached
    rw [called] at delivery
    cases delivery with
    | reached served quiet =>
        refine ⟨still.trans ⟨failing served, Nat.le_of_eq quiet.symm⟩, ?_⟩
        intro unscripted
        obtain ⟨value, answered⟩ := willing reached still (still.records.unscripted unscripted)
        rw [served] at answered
        exact absurd answered (by simp)
    | refused refusal untouched struck =>
        exact ⟨still.trans (.of_struck untouched struck),
          fun _ => Nat.lt_of_le_of_lt still.faults_le struck⟩
    | touched serving touch struck => exact absurd touch id
  case succeeds =>
    intro reached value after still called
    have delivery := delivered reached
    rw [called] at delivery
    cases delivery with
    | reached served quiet => exact ⟨reached, still, Nat.le_of_eq quiet.symm, served⟩
    | refused refusal untouched struck =>
        obtain ⟨status, impossible⟩ := refusal
        exact absurd impossible (by simp)
    | touched serving touch struck => exact absurd touch id
  refine ⟨attempts.1, ?_⟩
  intro error outcome
  rcases attempts.2 error outcome with failed | ⟨unchanged, cancelled⟩
  · exact ⟨failed.1, fun _ => failed.2⟩
  · rw [unchanged]
    exact ⟨.refl state, fun going => by simp [going] at cancelled⟩

/-- Once creating a stream succeeds, the stream is empty. -/
theorem create_run (serves : Serves environment store faults) (policy : RetryPolicy)
    (retryable : List StatusCode) (operation parent : String) (kind : StreamKind)
    (random : Random) (state : σ) :
    let ended := Retry.run environment.host policy retryable operation
      (environment.client.create parent kind) random state
    (∀ retried, ended.outcome = .ok retried →
      Within store faults retried.value.name state ended.state ∧
        (store ended.state).find? retried.value.name = some { kind := kind }) ∧
      (∀ error, ended.outcome = .error error →
        Still store faults state ended.state ∧
          (environment.host.cancelled state = false → (store state).script = {} →
            faults state < faults ended.state)) := by
  have attempts := serves.attempts_run state (serves.create parent kind)
    Store.create_error
    (fun reached _ unscripted => ⟨_, Store.create_of_unscripted parent kind unscripted⟩)
    policy retryable operation random
  refine ⟨?_, attempts.2⟩
  intro retried answered
  obtain ⟨reached, still, faults_le, served⟩ := attempts.1 retried answered
  obtain ⟨confined, found⟩ := Store.create_ok served
  exact ⟨(still.within _).trans ⟨confined, faults_le⟩, found⟩

/-- Once finalizing a stream succeeds, the stream is finalized with the rows it had. -/
theorem finalize_run (serves : Serves environment store faults) (policy : RetryPolicy)
    (retryable : List StatusCode) (operation : String) (random : Random)
    (found : (store state).find? stream = some record) :
    let ended := Retry.run environment.host policy retryable operation
      (environment.client.finalize stream) random state
    (∀ retried, ended.outcome = .ok retried →
      Within store faults stream state ended.state ∧
        (store ended.state).find? stream = some { record with finalized := true } ∧
        ((store state).script = {} → retried.value = record.rows.size)) ∧
      (∀ error, ended.outcome = .error error →
        Still store faults state ended.state ∧
          (environment.host.cancelled state = false → (store state).script = {} →
            faults state < faults ended.state)) := by
  have attempts := serves.attempts_run state (serves.finalize stream)
    Store.finalize_error
    (fun reached still unscripted =>
      ⟨_, Store.finalize_of_unscripted ((still.find? stream).trans found) unscripted⟩)
    policy retryable operation random
  refine ⟨?_, attempts.2⟩
  intro retried answered
  obtain ⟨reached, still, faults_le, served⟩ := attempts.1 retried answered
  obtain ⟨confined, same, sameFound, finalized, counted⟩ := Store.finalize_ok served
  have equal : same = record :=
    Option.some.inj (sameFound.symm.trans ((still.find? stream).trans found))
  rw [equal] at finalized counted
  refine ⟨(still.within stream).trans ⟨confined, faults_le⟩, finalized, ?_⟩
  intro unscripted
  rw [counted, still.records.unscripted unscripted]
  rfl

end Serves

end RowStream
