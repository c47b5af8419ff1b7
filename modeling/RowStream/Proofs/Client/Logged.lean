import RowStream.Proofs.Retry.Counting
import RowStream.Proofs.Session.Invariance
import RowStream.Proofs.Store.Log

/-!
Contract: what the requests of one session leave in the log of a service that they end at.

Owns:
- for each request to an environment that `Serves`, the entries that it adds to the log of a
  stream, and when a fault can keep it out of the log;
- `Serves.finalize_run_calls`, the entries of all attempts to finalize a stream;
- `Arrived`, what is new in the log was asked for, in this order, and `arrived_keeps`, that
  every request keeps this.
-/

namespace RowStream

variable {σ : Type} {environment : Environment σ} {store : σ → Store} {faults : σ → Nat}

/-- A request that is always logged is missing in the log only if it was refused. -/
theorem Delivery.logged {α : Type} {serve : Store → α × Store} {Refusal : α → Prop}
    {Touched : α → α → Prop} {before : σ} {request : α × σ} {call : Call} {stream : String}
    (delivery : Delivery store faults serve Refusal Touched before request)
    (concerned : call.stream? = some stream)
    (advances : ∀ held, Store.Advances [call] held (serve held).2) :
    (store request.2).callsOn stream = (store before).callsOn stream ++ [call] ∨
      Refusal request.1 ∧ (store request.2).callsOn stream = (store before).callsOn stream := by
  have logged := (advances (store before)).callsOn_of_concerned concerned
  cases delivery with
  | reached served quiet =>
      rw [served] at logged
      exact Or.inl logged
  | refused refusal untouched struck => exact Or.inr ⟨refusal, by rw [untouched]⟩
  | touched served touch struck =>
      rw [served] at logged
      exact Or.inl logged

namespace Serves

variable {state after : σ}

theorem report_calls (serves : Serves environment store faults) (stream : String)
    (event : Event) (state : σ) :
    (store (environment.host.report event state)).callsOn stream =
      (store state).callsOn stream := by
  rw [(serves.report event state).1]

theorem sleep_calls (serves : Serves environment store faults) (stream : String)
    (duration : Duration) (state : σ) :
    (store (environment.host.sleep duration state)).callsOn stream =
      (store state).callsOn stream := by
  rw [(serves.sleep duration state).1]

/-- Creating a stream names none in the log. -/
theorem create_calls (serves : Serves environment store faults) (stream parent : String)
    (kind : StreamKind) (state : σ) :
    (store (environment.client.create parent kind state).2).callsOn stream =
      (store state).callsOn stream :=
  @Delivery.kept _ _ _ _ _ _ _ _ _ (serves.create parent kind state)
    (fun before after => after.callsOn stream = before.callsOn stream) (fun _ => rfl)
    (fun held => by
      rw [(held.create_advances parent kind).callsOn stream]
      simp [Call.stream?])

theorem bind_calls (serves : Serves environment store faults) {stream : String} {schema : Schema}
    {appender : Appender}
    (called : environment.client.bind stream schema state = (.ok appender, after)) :
    (store after).callsOn stream = (store state).callsOn stream ++ [.bind stream] := by
  have delivery := serves.bind stream schema state
  rw [called] at delivery
  cases delivery with
  | reached served quiet =>
      have advances := (store state).bind_advances stream schema
      rw [served] at advances
      exact advances.callsOn_of_concerned rfl
  | refused refusal untouched struck => exact absurd refusal id
  | touched serving touch struck => exact absurd touch id

/-- Only an append that was rejected can be missing in the log. -/
theorem append_calls (serves : Serves environment store faults) {stream : String} {batch : Batch}
    {offset : UInt64} {reply : AppendReply}
    (called : environment.client.append { stream := stream } batch offset state = (reply, after)) :
    (store after).callsOn stream =
        (store state).callsOn stream ++ [.append stream offset batch.length] ∨
      (∃ status, reply = .rejected status) ∧
        (store after).callsOn stream = (store state).callsOn stream := by
  have delivery := serves.append { stream := stream } batch offset state
  rw [called] at delivery
  exact delivery.logged rfl (@Store.append_advances { stream := stream } rfl batch offset)

theorem close_calls (serves : Serves environment store faults) {stream : String}
    {answer : Except Status Unit}
    (called : environment.client.close { stream := stream } state = (answer, after)) :
    (store after).callsOn stream = (store state).callsOn stream ++ [.close stream] := by
  have delivery := serves.close { stream := stream } state
  rw [called] at delivery
  rcases delivery.logged rfl (@Store.close_advances { stream := stream } rfl) with logged | ⟨refused, _⟩
  · exact logged
  · exact absurd refused id

/-- A finalization is logged once, or it was struck on its way and is not logged at all. -/
theorem finalize_calls (serves : Serves environment store faults) (stream : String) (state : σ) :
    (store (environment.client.finalize stream state).2).callsOn stream =
        (store state).callsOn stream ++ [.finalize stream] ∨
      (store (environment.client.finalize stream state).2).callsOn stream =
        (store state).callsOn stream := by
  rcases (serves.finalize stream state).logged rfl (Store.finalize_advances stream) with
    logged | ⟨_, same⟩
  · exact Or.inl logged
  · exact Or.inr same

/-! ### Attempts -/

/-- However often creating a stream is attempted, no stream is named in the log by it. -/
theorem create_run_calls (serves : Serves environment store faults) (stream : String)
    (policy : RetryPolicy) (retryable : List StatusCode) (operation parent : String)
    (kind : StreamKind) (random : Random) (state : σ) :
    (store (Retry.run environment.host policy retryable operation
      (environment.client.create parent kind) random state).state).callsOn stream =
      (store state).callsOn stream := by
  have called {reached after : σ} {answer : Except Status CreatedStream}
      (kept : (store reached).callsOn stream = (store state).callsOn stream)
      (called : environment.client.create parent kind reached = (answer, after)) :
      (store after).callsOn stream = (store state).callsOn stream := by
    have next := serves.create_calls stream parent kind reached
    rw [called] at next
    exact next.trans kept
  have ended := @Retry.run_invariant CreatedStream σ environment.host
    (environment.client.create parent kind)
    (fun reached => (store reached).callsOn stream = (store state).callsOn stream)
    (fun _ reached => (store reached).callsOn stream = (store state).callsOn stream)
    (fun event reached kept => (serves.report_calls stream event reached).trans kept)
    (fun duration reached kept => (serves.sleep_calls stream duration reached).trans kept)
    called called policy retryable operation random state rfl
  cases outcome : (Retry.run environment.host policy retryable operation
      (environment.client.create parent kind) random state).outcome with
  | ok retried => exact ended.1 retried outcome
  | error error => exact ended.2 error outcome

/-- The attempts to finalize a stream leave at most as many entries as the policy allows. -/
theorem finalize_run_calls (serves : Serves environment store faults) (stream : String)
    (policy : RetryPolicy) (retryable : List StatusCode) (operation : String) (random : Random)
    (state : σ) :
    ∃ logged, policy.Allows logged ∧
      (store (Retry.run environment.host policy retryable operation
        (environment.client.finalize stream) random state).state).callsOn stream =
        (store state).callsOn stream ++ List.replicate logged (.finalize stream) := by
  let Logged := fun (calls : Nat) (reached : σ) => ∃ logged, logged ≤ calls ∧
    (store reached).callsOn stream =
      (store state).callsOn stream ++ List.replicate logged (.finalize stream)
  have called {calls : Nat} {reached after : σ} {answer : Except Status Nat}
      (logged : Logged calls reached)
      (called : environment.client.finalize stream reached = (answer, after)) :
      Logged (calls + 1) after := by
    obtain ⟨logged, within, entries⟩ := logged
    have next := serves.finalize_calls stream reached
    rw [called] at next
    rcases next with more | same
    · refine ⟨logged + 1, by omega, ?_⟩
      rw [more, entries, List.replicate_succ', List.append_assoc]
    · exact ⟨logged, by omega, same.trans entries⟩
  have counted := @Retry.run_counted Nat σ environment.host (environment.client.finalize stream)
    Logged (fun calls _ reached => Logged calls reached)
    (fun calls event reached ⟨logged, within, entries⟩ =>
      ⟨logged, within, (serves.report_calls stream event reached).trans entries⟩)
    (fun calls duration reached ⟨logged, within, entries⟩ =>
      ⟨logged, within, (serves.sleep_calls stream duration reached).trans entries⟩)
    called called policy retryable operation random state ⟨0, Nat.le_refl 0, by simp⟩
  obtain ⟨calls, allowed, ended⟩ := counted
  have whole : Logged calls (Retry.run environment.host policy retryable operation
      (environment.client.finalize stream) random state).state := by
    split at ended
    · exact ended.2
    · exact ended.2
  obtain ⟨logged, within, entries⟩ := whole
  exact ⟨logged, fun limited => Nat.le_trans within (allowed limited), entries⟩

end Serves

/-! ### Requests made and requests logged -/

/-- The entry that a request leaves where it arrives; a pause leaves none. -/
def Request.call? : Request → Option Call
  | .create parent _ => some (.create parent)
  | .bind stream => some (.bind stream)
  | .append appender batch offset => some (.append appender.stream offset batch.length)
  | .close appender => some (.close appender.stream)
  | .finalize stream => some (.finalize stream)
  | .sleep _ => none

/-- Each new entry in the log of a stream comes from a request made in the meantime, in the
order of these. -/
def Arrived (store : σ → Store) (stream : String) (before after : List Request × σ) : Prop :=
  ∃ requests logged, after.1 = before.1 ++ requests ∧
    (store after.2).callsOn stream = (store before.2).callsOn stream ++ logged ∧
    logged.Sublist (requests.filterMap Request.call?)

namespace Arrived

variable {stream : String}

theorem refl (whole : List Request × σ) : Arrived store stream whole whole :=
  ⟨[], [], by simp, by simp, by simp⟩

theorem trans {first second third : List Request × σ} (left : Arrived store stream first second)
    (right : Arrived store stream second third) : Arrived store stream first third := by
  obtain ⟨early, earlyLogged, earlyMade, earlyEntries, earlySublist⟩ := left
  obtain ⟨late, lateLogged, lateMade, lateEntries, lateSublist⟩ := right
  refine ⟨early ++ late, earlyLogged ++ lateLogged, ?_, ?_, ?_⟩
  · rw [lateMade, earlyMade, List.append_assoc]
  · rw [lateEntries, earlyEntries, List.append_assoc]
  · rw [List.filterMap_append]
    exact earlySublist.append lateSublist

theorem of_unlogged {whole : List Request × σ} {state : σ} (requests : List Request)
    (same : (store state).callsOn stream = (store whole.2).callsOn stream) :
    Arrived store stream whole (whole.1 ++ requests, state) :=
  ⟨requests, [], rfl, by rw [same, List.append_nil], List.nil_sublist _⟩

end Arrived

/-- A request that leaves its entry or none. -/
theorem Delivery.arrived {α : Type} {serve : Store → α × Store} {Refusal : α → Prop}
    {Touched : α → α → Prop} {whole : List Request × σ} {answered : α × σ} {request : Request}
    {call : Call} (stream : String)
    (delivery : Delivery store faults serve Refusal Touched whole.2 answered)
    (asked : request.call? = some call)
    (logs : ∀ held, Store.Logs call held (serve held).2) :
    Arrived store stream whole (whole.1 ++ [request], answered.2) := by
  obtain ⟨entries, sublist, advances⟩ := delivery.kept (Store.logs_refl call) logs
  refine ⟨[request], _, rfl, advances.callsOn stream, ?_⟩
  rw [List.filterMap_cons, asked, List.filterMap_nil]
  exact List.filter_sublist.trans sublist

/-- What the log gains on a stream was asked for, in this order, by whatever kind of request. -/
theorem arrived_keeps (serves : Serves environment store faults) (stream : String) :
    Keeps environment.recorded (Arrived store stream) where
  refl := .refl
  trans := .trans
  report event whole := by
    refine ⟨[], [], by simp [Environment.recorded], ?_, List.nil_sublist _⟩
    rw [List.append_nil]
    exact serves.report_calls stream event whole.2
  sleep duration whole := .of_unlogged [.sleep duration]
    (serves.sleep_calls stream duration whole.2)
  create parent kind whole := (serves.create parent kind whole.2).arrived stream rfl
    fun held => (held.create_advances parent kind).logs
  bind bound schema whole := (serves.bind bound schema whole.2).arrived stream rfl
    (Store.bind_logs bound schema)
  append appender batch offset whole :=
    (serves.append appender batch offset whole.2).arrived stream rfl
      (Store.append_logs appender batch offset)
  close appender whole := (serves.close appender whole.2).arrived stream rfl
    (Store.close_logs appender)
  finalize finalized whole := (serves.finalize finalized whole.2).arrived stream rfl
    fun held => (held.finalize_advances finalized).logs

end RowStream
