import RowStream.Proofs.Client.Logged
import RowStream.Proofs.Session.Course
import RowStream.Proofs.Store.Names

/-!
Contract: the stream of a session has a name of its own.

Owns:
- `Store.Later`, a store after any requests, and `later_keeps`, that operations of sessions
  lead to later stores;
- `Serves.create_run_name`, the name that attempts to create a stream come to.

Main statement: `Course.start_name`, a session opens the stream with the next number. No
request takes a number back, so that no stream opened before or afterwards has this name.
-/

namespace RowStream

variable {σ : Type} {environment : Environment σ} {store : σ → Store} {faults : σ → Nat}

namespace Store

def Later (before after : Store) : Prop := ∃ entries, Advances entries before after

theorem Later.refl (store : Store) : Later store store := ⟨[], .refl store⟩

theorem Later.trans {first second third : Store} (left : Later first second)
    (right : Later second third) : Later first third := by
  obtain ⟨early, earlyAdvances⟩ := left
  obtain ⟨late, lateAdvances⟩ := right
  exact ⟨early ++ late, earlyAdvances.trans lateAdvances⟩

theorem Logs.later {call : Call} {before after : Store} (logs : Logs call before after) :
    Later before after := by
  obtain ⟨entries, _, advances⟩ := logs
  exact ⟨entries, advances⟩

theorem Later.created_le {before after : Store} (later : Later before after) :
    before.created ≤ after.created := by
  obtain ⟨entries, advances⟩ := later
  exact advances.created_le

end Store

/-- Names are only ever added, whatever a session asks for. -/
theorem later_keeps (serves : Serves environment store faults) :
    Keeps environment fun before after => Store.Later (store before) (store after) :=
  serves.keeps .refl .trans
    (fun parent kind held => ⟨_, held.create_advances parent kind⟩)
    (fun stream schema held => ⟨_, held.bind_advances stream schema⟩)
    (fun appender batch offset held => (held.append_logs appender batch offset).later)
    (fun appender held => (held.close_logs appender).later)
    (fun stream held => ⟨_, held.finalize_advances stream⟩)

/-- However often creating a stream is attempted: until it succeeds no number is used up. -/
theorem Serves.create_run_name (serves : Serves environment store faults) (policy : RetryPolicy)
    (retryable : List StatusCode) (operation parent : String) (kind : StreamKind)
    (random : Random) {state : σ} {retried : Retried CreatedStream}
    (answered : (Retry.run environment.host policy retryable operation
      (environment.client.create parent kind) random state).outcome = .ok retried) :
    retried.value.name = Store.streamName parent ((store state).created + 1) ∧
      (store (Retry.run environment.host policy retryable operation
        (environment.client.create parent kind) random state).state).created =
        (store state).created + 1 := by
  refine (@Retry.run_invariant CreatedStream σ environment.host
    (environment.client.create parent kind)
    (fun reached => (store reached).created = (store state).created)
    (fun created reached =>
      created.name = Store.streamName parent ((store state).created + 1) ∧
        (store reached).created = (store state).created + 1)
    (fun event reached unused => by rw [(serves.report event reached).1, unused])
    (fun duration reached unused => by rw [(serves.sleep duration reached).1, unused])
    ?fails ?succeeds policy retryable operation random state rfl).1 retried answered
  case fails =>
    intro reached status after unused called
    have delivery := serves.create parent kind reached
    rw [called] at delivery
    cases delivery with
    | reached served quiet => exact (Store.create_error_created served).trans unused
    | refused refusal untouched struck => rw [untouched, unused]
    | touched serving touch struck => exact absurd touch id
  case succeeds =>
    intro reached created after unused called
    have delivery := serves.create parent kind reached
    rw [called] at delivery
    cases delivery with
    | reached served quiet =>
        have named := Store.create_ok_created served
        rw [unused] at named
        exact named
    | refused refusal untouched struck =>
        obtain ⟨status, impossible⟩ := refusal
        exact absurd impossible (by simp)
    | touched serving touch struck => exact absurd touch id

theorem Session.StartStep.name (serves : Serves environment store faults) {table : String}
    {schema : Schema} {config : Config} {random : Random} {state : σ}
    {ended : Except SessionError Session × σ}
    (step : StartStep environment table schema config random state ended) {session : Session}
    (started : ended.1 = .ok session) :
    session.streamText = Store.streamName table ((store state).created + 1) ∧
      (store state).created < (store ended.2).created := by
  cases step with
  | invalid flawed => simp at started
  | notCreated valid gaveUp => simp at started
  | notBound valid answered bound => simp at started
  | @opened created appender after valid answered bound =>
      obtain ⟨named, counted⟩ := serves.create_run_name config.retry config.retryableCodes
        "create_write_stream" table .pending random answered
      have later : Store.Later
          (store (creating environment table config random state).state) (store after) :=
        (later_keeps serves).of_bind bound
      rw [← Except.ok.inj started, (serves.report _ after).1]
      refine ⟨named, ?_⟩
      have grown := later.created_le
      unfold creating at grown
      omega

namespace Course

variable {table : String} {schema : Schema} {config : Config} {random : Random} {state : σ}
  {course : Course σ}

/-- A session opens the stream with the next number. -/
theorem start_name (serves : Serves environment store faults)
    (started : start environment table schema config random state = .ok course) :
    course.session.streamText = Store.streamName table ((store state).created + 1) ∧
      (store state).created < (store course.state).created :=
  (step_of_start started).name (serves_recorded serves) rfl

theorem later_start (serves : Serves environment store faults)
    (started : start environment table schema config random state = .ok course) :
    Store.Later (store state) (store course.state) :=
  (step_of_start started).kept (later_keeps (serves_recorded serves))

end Course

end RowStream
