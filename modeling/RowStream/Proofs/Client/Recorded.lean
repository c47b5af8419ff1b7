import RowStream.Client

/-!
Contract: the requests that a session makes, written down in their order.

Owns:
- `Request`, one request to the client or to the clock with all that it says;
- `Environment.recorded`, which behaves like another environment and keeps the requests, and
  what each request adds to them;
- `Request.Added`, a record that grew by requests of a given kind only.
-/

namespace RowStream

/-- What a session asks of its client or its clock. -/
inductive Request where
  | create (parent : String) (kind : StreamKind)
  | bind (stream : String)
  | append (appender : Appender) (batch : Batch) (offset : UInt64)
  | close (appender : Appender)
  | finalize (stream : String)
  | sleep (duration : Duration)

/-- A client that notes every request before it makes it. -/
def Client.recorded {σ : Type} (client : Client σ) : Client (List Request × σ) where
  create := fun parent kind (requests, state) =>
    let (answer, state) := client.create parent kind state
    (answer, requests ++ [.create parent kind], state)
  bind := fun stream schema (requests, state) =>
    let (answer, state) := client.bind stream schema state
    (answer, requests ++ [.bind stream], state)
  append := fun appender batch offset (requests, state) =>
    let (reply, state) := client.append appender batch offset state
    (reply, requests ++ [.append appender batch offset], state)
  close := fun appender (requests, state) =>
    let (answer, state) := client.close appender state
    (answer, requests ++ [.close appender], state)
  finalize := fun stream (requests, state) =>
    let (answer, state) := client.finalize stream state
    (answer, requests ++ [.finalize stream], state)
  shutdown := fun (requests, state) => (requests, client.shutdown state)

def Environment.recorded {σ : Type} (environment : Environment σ) :
    Environment (List Request × σ) where
  client := environment.client.recorded
  host :=
    { now := fun (_, state) => environment.host.now state
      sleep := fun duration (requests, state) =>
        (requests ++ [.sleep duration], environment.host.sleep duration state)
      cancelled := fun (_, state) => environment.host.cancelled state
      report := fun event (requests, state) => (requests, environment.host.report event state) }

namespace Environment

variable {σ : Type} {environment : Environment σ} {before after : List Request × σ}

theorem bind_noted {stream : String} {schema : Schema} {answer : Except SystemError Appender}
    (called : environment.recorded.client.bind stream schema before = (answer, after)) :
    after.1 = before.1 ++ [.bind stream] :=
  (congrArg (fun answered => answered.2.1) called).symm

theorem append_noted {appender : Appender} {batch : Batch} {offset : UInt64} {reply : AppendReply}
    (called : environment.recorded.client.append appender batch offset before = (reply, after)) :
    after.1 = before.1 ++ [.append appender batch offset] :=
  (congrArg (fun answered => answered.2.1) called).symm

theorem close_noted {appender : Appender} {answer : Except Status Unit}
    (called : environment.recorded.client.close appender before = (answer, after)) :
    after.1 = before.1 ++ [.close appender] :=
  (congrArg (fun answered => answered.2.1) called).symm

end Environment

namespace Request

/-- The second record is the first one with requests of a kind added at its end. -/
def Added (Kind : Request → Prop) (before after : List Request) : Prop :=
  ∃ added, after = before ++ added ∧ ∀ request ∈ added, Kind request

namespace Added

variable {Kind : Request → Prop} {first second third : List Request}

theorem refl (requests : List Request) : Added Kind requests requests :=
  ⟨[], by simp, by simp⟩

theorem one {request : Request} (kind : Kind request) (requests : List Request) :
    Added Kind requests (requests ++ [request]) :=
  ⟨[request], rfl, by simpa using kind⟩

theorem trans (left : Added Kind first second) (right : Added Kind second third) :
    Added Kind first third := by
  obtain ⟨early, earlyEq, earlyKind⟩ := left
  obtain ⟨late, lateEq, lateKind⟩ := right
  refine ⟨early ++ late, by rw [lateEq, earlyEq, List.append_assoc], ?_⟩
  intro request member
  rcases List.mem_append.mp member with inEarly | inLate
  · exact earlyKind request inEarly
  · exact lateKind request inLate

theorem forall_mem (added : Added Kind first second) (before : ∀ request ∈ first, Kind request) :
    ∀ request ∈ second, Kind request := by
  obtain ⟨requests, equal, kind⟩ := added
  intro request member
  rw [equal] at member
  exact (List.mem_append.mp member).elim (before request) (kind request)

/-- A request that was not made and is not added is not made afterwards. -/
theorem not_mem {request : Request} {before after : List Request}
    (added : Added (fun other => other ≠ request) before after) (missing : request ∉ before) :
    request ∉ after := by
  intro member
  have others := added.forall_mem (fun other found same => missing (same ▸ found))
  exact others request member rfl

end Added

end Request

end RowStream
