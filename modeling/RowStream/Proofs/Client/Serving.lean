import RowStream.Proofs.Client.Recorded
import RowStream.Proofs.Store.Requests
import RowStream.Simulation.Harness

/-!
Contract: environments whose requests end at an in-memory store.

Owns:
- `Delivery`, how one request fares on its way: it reaches the store, a fault refuses it,
  or a fault touches the answer;
- `Serves`, an environment in which every request fares in one of these ways, and `Steady`,
  one whose requests cancel nothing;
- `Environment.simulated`, the store with or without faults on the way to it;
- `Environment.interruptedBy`, an environment whose token may be cancelled at any moment.

Main statements: `serves_simulated` and `serves_recorded`. What is proved of every
environment that serves holds of both, whatever the rates of the faults, the generator
and the cancellation token.
-/

namespace RowStream

variable {σ : Type}

/-- How a request fares that `serve` answers. Only a fault that strikes keeps it from the
store or touches the answer on its way back. -/
inductive Delivery {α : Type} (store : σ → Store) (faults : σ → Nat)
    (serve : Store → α × Store) (Refusal : α → Prop) (Touched : α → α → Prop) (before : σ) :
    α × σ → Prop where
  | reached {answer : α} {after : σ} (served : serve (store before) = (answer, store after))
      (quiet : faults after = faults before) :
      Delivery store faults serve Refusal Touched before (answer, after)
  | refused {answer : α} {after : σ} (refusal : Refusal answer)
      (untouched : store after = store before) (struck : faults before < faults after) :
      Delivery store faults serve Refusal Touched before (answer, after)
  | touched {answer served : α} {after : σ}
      (serving : serve (store before) = (served, store after)) (touch : Touched served answer)
      (struck : faults before < faults after) :
      Delivery store faults serve Refusal Touched before (answer, after)

/-- An answer that a fault makes up. -/
def IsError {ε α : Type} (answer : Except ε α) : Prop := ∃ error, answer = .error error

/-- A fault on the way back may lose an acknowledgement or falsify its offset, but does
not make one up. -/
def AckTouched (served answer : AppendReply) : Prop :=
  ∀ offset, answer = .appended offset → ∃ actual, served = .appended actual

/-- An environment in which requests end at the store, and in which `faults` faults struck
so far. -/
structure Serves (environment : Environment σ) (store : σ → Store) (faults : σ → Nat) :
    Prop where
  report : ∀ event state, store (environment.host.report event state) = store state ∧
    faults (environment.host.report event state) = faults state
  sleep : ∀ duration state, store (environment.host.sleep duration state) = store state ∧
    faults (environment.host.sleep duration state) = faults state
  create : ∀ parent kind state,
    Delivery store faults (Store.create parent kind) IsError (fun _ _ => False) state
      (environment.client.create parent kind state)
  bind : ∀ stream schema state,
    Delivery store faults (Store.bind stream schema) (fun _ => False) (fun _ _ => False) state
      (environment.client.bind stream schema state)
  append : ∀ appender batch offset state,
    Delivery store faults (Store.append appender batch offset)
      (fun reply => ∃ status, reply = .rejected status) AckTouched state
      (environment.client.append appender batch offset state)
  close : ∀ appender state,
    Delivery store faults (Store.close appender) (fun _ => False) (fun _ _ => False) state
      (environment.client.close appender state)
  finalize : ∀ stream state,
    Delivery store faults (Store.finalize stream) IsError (fun _ _ => False) state
      (environment.client.finalize stream state)

/-- An environment in which a token is cancelled by others only. -/
structure Steady (environment : Environment σ) : Prop where
  report : ∀ event state,
    environment.host.cancelled (environment.host.report event state) =
      environment.host.cancelled state
  sleep : ∀ duration state,
    environment.host.cancelled (environment.host.sleep duration state) =
      environment.host.cancelled state
  append : ∀ appender batch offset state,
    environment.host.cancelled (environment.client.append appender batch offset state).2 =
      environment.host.cancelled state

/-- A delivery seen through states that show the same store and the same faults. -/
theorem Delivery.transfer {τ α : Type} {store : σ → Store} {faults : σ → Nat}
    {serve : Store → α × Store} {Refusal : α → Prop} {Touched : α → α → Prop} {before : σ}
    {request : α × σ} (delivery : Delivery store faults serve Refusal Touched before request)
    {store' : τ → Store} {faults' : τ → Nat} {before' after' : τ}
    (storeBefore : store' before' = store before) (storeAfter : store' after' = store request.2)
    (faultsBefore : faults' before' = faults before)
    (faultsAfter : faults' after' = faults request.2) :
    Delivery store' faults' serve Refusal Touched before' (request.1, after') := by
  cases delivery with
  | reached served quiet =>
      refine .reached ?_ ?_
      · rw [storeBefore, storeAfter]
        exact served
      · rw [faultsAfter, faultsBefore]
        exact quiet
  | refused refusal untouched struck =>
      refine .refused refusal ?_ ?_
      · rw [storeAfter, storeBefore]
        exact untouched
      · rw [faultsAfter, faultsBefore]
        exact struck
  | touched serving touch struck =>
      refine .touched ?_ touch ?_
      · rw [storeBefore, storeAfter]
        exact serving
      · rw [faultsAfter, faultsBefore]
        exact struck

/-- Noting the requests does not change how they fare. -/
theorem serves_recorded {environment : Environment σ} {store : σ → Store} {faults : σ → Nat}
    (serves : Serves environment store faults) :
    Serves environment.recorded (fun whole => store whole.2) (fun whole => faults whole.2) where
  report event whole := serves.report event whole.2
  sleep duration whole := serves.sleep duration whole.2
  create parent kind whole := (serves.create parent kind whole.2).transfer rfl rfl rfl rfl
  bind stream schema whole := (serves.bind stream schema whole.2).transfer rfl rfl rfl rfl
  append appender batch offset whole :=
    (serves.append appender batch offset whole.2).transfer rfl rfl rfl rfl
  close appender whole := (serves.close appender whole.2).transfer rfl rfl rfl rfl
  finalize stream whole := (serves.finalize stream whole.2).transfer rfl rfl rfl rfl

theorem steady_recorded {environment : Environment σ} (steady : Steady environment) :
    Steady environment.recorded where
  report event whole := steady.report event whole.2
  sleep duration whole := steady.sleep duration whole.2
  append appender batch offset whole := steady.append appender batch offset whole.2

/-! ### Faults on the way -/

section Faults

def struckFaults (backend : FaultInjector × Store) : Nat := backend.1.counters.totalFaults

namespace FaultInjector

/-- Deciding whether a fault strikes counts nothing yet. -/
theorem counters_firstStrike (points : List FaultPoint) (injector : FaultInjector) :
    (injector.firstStrike points).2.counters = injector.counters := by
  induction points generalizing injector with
  | nil => rfl
  | cons point rest inductionHypothesis =>
      have same : (injector.strikes point).2.counters = injector.counters := rfl
      rw [firstStrike]
      cases struck : injector.strikes point with
      | mk hit later =>
          rw [struck] at same
          cases hit with
          | true => exact same
          | false => exact (inductionHypothesis later).trans same

theorem totalFaults_countCreate (struck : Bool) (injector : FaultInjector) :
    (injector.countCreate struck).counters.totalFaults =
      injector.counters.totalFaults + struck.toNat := by
  simp only [countCreate, FaultCounters.totalFaults]
  omega

theorem totalFaults_countFinalize (struck : Bool) (injector : FaultInjector) :
    (injector.countFinalize struck).counters.totalFaults =
      injector.counters.totalFaults + struck.toNat := by
  simp only [countFinalize, FaultCounters.totalFaults]
  omega

theorem totalFaults_countAppend (struck : Option FaultPoint) (injector : FaultInjector) :
    (injector.countAppend struck).counters.totalFaults =
      injector.counters.totalFaults + (struck == some .appendServerError).toNat +
        (struck == some .appendOffsetSkew).toNat +
        (struck == some .appendResponseDropped).toNat := by
  simp only [countAppend, FaultCounters.totalFaults]
  omega

end FaultInjector

/-- A request that the first fault to strike refuses is served if none strikes. -/
theorem delivery_of_firstStrike {α : Type} {count : Bool → FaultInjector → FaultInjector}
    (counts : ∀ struck injector, (count struck injector).counters.totalFaults =
      injector.counters.totalFaults + struck.toNat)
    (points : List FaultPoint) (serve : Store → Except Status α × Store)
    (injector : FaultInjector) (store : Store) :
    Delivery Prod.snd struckFaults serve IsError (fun _ _ => False) (injector, store)
      (let (struck, later) := injector.firstStrike points
       let later := count struck.isSome later
       match struck with
       | some point => (.error (FaultInjector.refusal point), later, store)
       | none =>
           let (answer, store) := serve store
           (answer, later, store)) := by
  have counted := injector.counters_firstStrike points
  cases rolled : injector.firstStrike points with
  | mk struck later =>
      rw [rolled] at counted
      have total := counts struck.isSome later
      rw [counted] at total
      cases struck with
      | some point =>
          refine .refused ⟨_, rfl⟩ rfl ?_
          simp only [struckFaults, Option.isSome_some, Bool.toNat_true] at total ⊢
          omega
      | none => exact .reached rfl total

/-- A creation passes the faults unchanged, or fails with nothing done at the service. -/
theorem create_delivered (parent : String) (kind : StreamKind)
    (backend : FaultInjector × Store) :
    Delivery Prod.snd struckFaults (Store.create parent kind) IsError (fun _ _ => False) backend
      (Store.client.withFaults.create parent kind backend) :=
  delivery_of_firstStrike FaultInjector.totalFaults_countCreate
    [.createInvalidArgument, .createUnavailable] (Store.create parent kind) backend.1 backend.2

theorem finalize_delivered (stream : String) (backend : FaultInjector × Store) :
    Delivery Prod.snd struckFaults (Store.finalize stream) IsError (fun _ _ => False) backend
      (Store.client.withFaults.finalize stream backend) :=
  delivery_of_firstStrike FaultInjector.totalFaults_countFinalize
    [.finalizeUnavailable, .finalizeDeadlineExceeded] (Store.finalize stream) backend.1 backend.2

/-- An append passes the faults unchanged, fails with nothing done at the service, or is carried
out there and answered with another offset or not at all. -/
theorem append_delivered (appender : Appender) (batch : Batch) (offset : UInt64)
    (backend : FaultInjector × Store) :
    Delivery Prod.snd struckFaults (Store.append appender batch offset)
      (fun reply => ∃ status, reply = .rejected status) AckTouched backend
      (Store.client.withFaults.append appender batch offset backend) := by
  obtain ⟨injector, store⟩ := backend
  have counted := injector.counters_firstStrike
    [.appendServerError, .appendOffsetSkew, .appendResponseDropped]
  simp only [Client.withFaults]
  cases rolled : injector.firstStrike
      [.appendServerError, .appendOffsetSkew, .appendResponseDropped] with
  | mk struck later =>
      rw [rolled] at counted
      have total := later.totalFaults_countAppend struck
      rw [counted] at total
      have more (hit : struck = some .appendServerError ∨ struck = some .appendOffsetSkew ∨
          struck = some .appendResponseDropped) :
          injector.counters.totalFaults < (later.countAppend struck).counters.totalFaults := by
        rcases hit with rfl | rfl | rfl <;>
          simp only [beq_self_eq_true, Bool.toNat_true] at total <;> omega
      simp only
      split
      · exact .refused ⟨_, rfl⟩ rfl (more (Or.inl rfl))
      · refine .touched rfl ?_ (more (Or.inr (Or.inl rfl)))
        intro claimed answered
        revert answered
        split
        · next actual served => exact fun _ => ⟨actual, served⟩
        · exact fun answered => ⟨claimed, answered⟩
      · exact .touched rfl (fun claimed answered => by simp at answered)
          (more (Or.inr (Or.inr rfl)))
      · next noError noSkew noDrop =>
          refine .reached rfl ?_
          rw [beq_false_of_ne noError, beq_false_of_ne noSkew, beq_false_of_ne noDrop] at total
          exact total

end Faults

/-! ### The simulated service -/

namespace SimStage

def store (stage : SimStage) : Store := stage.backend.2

def faults (stage : SimStage) : Nat := struckFaults stage.backend

end SimStage

/-- Sessions on an in-memory service, with faults on the way to it or directly. -/
def Environment.simulated (faulty : Bool) (token : Option String) : Environment SimStage :=
  .onStage (if faulty then Store.client.withFaults else Store.client.onSecond).onStage token

theorem simulated_eq_harness : Environment.simulated true none = Harness.environment := rfl

theorem serves_simulated (faulty : Bool) (token : Option String) :
    Serves (Environment.simulated faulty token) SimStage.store SimStage.faults := by
  cases faulty with
  | true =>
      exact
        { report := fun _ _ => ⟨rfl, rfl⟩
          sleep := fun _ _ => ⟨rfl, rfl⟩
          create := fun parent kind stage =>
            (create_delivered parent kind stage.backend).transfer rfl rfl rfl rfl
          bind := fun _ _ _ => .reached rfl rfl
          append := fun appender batch offset stage =>
            (append_delivered appender batch offset stage.backend).transfer rfl rfl rfl rfl
          close := fun _ _ => .reached rfl rfl
          finalize := fun stream stage =>
            (finalize_delivered stream stage.backend).transfer rfl rfl rfl rfl }
  | false =>
      exact
        { report := fun _ _ => ⟨rfl, rfl⟩
          sleep := fun _ _ => ⟨rfl, rfl⟩
          create := fun _ _ _ => .reached rfl rfl
          bind := fun _ _ _ => .reached rfl rfl
          append := fun _ _ _ _ => .reached rfl rfl
          close := fun _ _ => .reached rfl rfl
          finalize := fun _ _ => .reached rfl rfl }

theorem steady_simulated (faulty : Bool) (token : Option String) :
    Steady (Environment.simulated faulty token) where
  report _ _ := rfl
  sleep _ _ := rfl
  append _ _ _ _ := rfl

/-! ### Cancellation at any moment -/

section Interruption

variable {environment : Environment σ} {store : σ → Store} {faults : σ → Nat}

/-- The environment with another token, which is cancelled in the states told. -/
def Environment.interruptedBy (cancelled : σ → Bool) (environment : Environment σ) :
    Environment σ :=
  { environment with host := { environment.host with cancelled := cancelled } }

/-- A token has no part in how requests fare. -/
theorem serves_interruptedBy (serves : Serves environment store faults) (cancelled : σ → Bool) :
    Serves (environment.interruptedBy cancelled) store faults where
  report := serves.report
  sleep := serves.sleep
  create := serves.create
  bind := serves.bind
  append := serves.append
  close := serves.close
  finalize := serves.finalize

end Interruption

end RowStream
