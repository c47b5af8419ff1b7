import RowStream.Client
import RowStream.Fault.Switch

/-!
Contract: a client that lets faults strike between a session and another client.

Owns:
- `FaultRates`, the probability of each fault;
- `FaultCounters`, the requests seen and the faults that struck;
- `Client.withFaults`, which wraps any client.

A refused creation, append or finalization does not reach the wrapped client. A skewed or
dropped acknowledgement does: only the answer is touched.
-/

namespace RowStream

/-- The probability with which each fault strikes. -/
structure FaultRates where
  rate : FaultPoint → Float

namespace FaultRates

/-- The probabilities in force in a table. -/
def ofTable (table : FaultTable) : FaultRates :=
  ⟨fun point => table.probability point.id⟩

def standard : FaultRates := ofTable .standard

/-- Frequent faults. -/
def chaos : FaultRates := ofTable .chaos

/-- No faults. -/
def none : FaultRates := ofTable .disabled

end FaultRates

/-- Requests seen, and faults that struck. -/
structure FaultCounters where
  createAttempts : Nat := 0
  createFaults : Nat := 0
  appendAttempts : Nat := 0
  appendServerErrors : Nat := 0
  appendOffsetSkews : Nat := 0
  appendResponsesDropped : Nat := 0
  finalizeAttempts : Nat := 0
  finalizeFaults : Nat := 0
deriving DecidableEq, Repr

def FaultCounters.totalFaults (counters : FaultCounters) : Nat :=
  counters.createFaults + counters.appendServerErrors + counters.appendOffsetSkews +
    counters.appendResponsesDropped + counters.finalizeFaults

/-- What decides about faults: the rates, the generator and the switch, with the counters. -/
structure FaultInjector where
  rates : FaultRates
  random : Random
  switch : FaultSwitch := {}
  counters : FaultCounters := {}

namespace FaultInjector

/-- Whether the fault at a point strikes now. -/
def strikes (point : FaultPoint) (injector : FaultInjector) : Bool × FaultInjector :=
  let (struck, switch, random) :=
    injector.switch.strikesWith point.id (injector.rates.rate point) injector.random
  (struck, { injector with switch := switch, random := random })

/-- The first of several points whose fault strikes; later ones are not considered. -/
def firstStrike : List FaultPoint → FaultInjector → Option FaultPoint × FaultInjector
  | [], injector => (none, injector)
  | point :: rest, injector =>
      match injector.strikes point with
      | (true, injector) => (some point, injector)
      | (false, injector) => firstStrike rest injector

def countCreate (struck : Bool) (injector : FaultInjector) : FaultInjector :=
  let counters := injector.counters
  { injector with
    counters :=
      { counters with
        createAttempts := counters.createAttempts + 1
        createFaults := counters.createFaults + struck.toNat } }

def countAppend (struck : Option FaultPoint) (injector : FaultInjector) : FaultInjector :=
  let counters := injector.counters
  let hit (point : FaultPoint) : Nat := (struck == some point).toNat
  { injector with
    counters :=
      { counters with
        appendAttempts := counters.appendAttempts + 1
        appendServerErrors := counters.appendServerErrors + hit .appendServerError
        appendOffsetSkews := counters.appendOffsetSkews + hit .appendOffsetSkew
        appendResponsesDropped :=
          counters.appendResponsesDropped + hit .appendResponseDropped } }

def countFinalize (struck : Bool) (injector : FaultInjector) : FaultInjector :=
  let counters := injector.counters
  { injector with
    counters :=
      { counters with
        finalizeAttempts := counters.finalizeAttempts + 1
        finalizeFaults := counters.finalizeFaults + struck.toNat } }

/-- The status with which a struck creation or finalization is refused. -/
def refusal : FaultPoint → Status
  | .createInvalidArgument => .invalidArgument "simulated: table schema rejected"
  | .finalizeDeadlineExceeded => ⟨.deadlineExceeded, "simulated: deadline exceeded"⟩
  | .appendServerError => ⟨.internal, "simulated: append rejected"⟩
  | _ => .unavailable "simulated: service unavailable"

end FaultInjector

/-- A client whose requests a fault may strike on their way. -/
def Client.withFaults {σ : Type} (inner : Client σ) : Client (FaultInjector × σ) where
  create := fun parent kind (injector, state) =>
    let (struck, injector) :=
      injector.firstStrike [.createInvalidArgument, .createUnavailable]
    let injector := injector.countCreate struck.isSome
    match struck with
    | some point => (.error (FaultInjector.refusal point), injector, state)
    | none =>
        let (answer, state) := inner.create parent kind state
        (answer, injector, state)
  bind := fun stream schema (injector, state) =>
    let (answer, state) := inner.bind stream schema state
    (answer, injector, state)
  append := fun appender batch offset (injector, state) =>
    let (struck, injector) :=
      injector.firstStrike [.appendServerError, .appendOffsetSkew, .appendResponseDropped]
    let injector := injector.countAppend struck
    match struck with
    | some .appendServerError =>
        (.rejected (FaultInjector.refusal .appendServerError), injector, state)
    | some .appendOffsetSkew =>
        let (reply, state) := inner.append appender batch offset state
        let skewed := match reply with
          | .appended offset => .appended (offset + 1)
          | other => other
        (skewed, injector, state)
    | some .appendResponseDropped =>
        let (_, state) := inner.append appender batch offset state
        (.lost (.unavailable "simulated: connection reset before append response"), injector,
          state)
    | _ =>
        let (reply, state) := inner.append appender batch offset state
        (reply, injector, state)
  close := fun appender (injector, state) =>
    let (answer, state) := inner.close appender state
    (answer, injector, state)
  finalize := fun stream (injector, state) =>
    let (struck, injector) :=
      injector.firstStrike [.finalizeUnavailable, .finalizeDeadlineExceeded]
    let injector := injector.countFinalize struck.isSome
    match struck with
    | some point => (.error (FaultInjector.refusal point), injector, state)
    | none =>
        let (answer, state) := inner.finalize stream state
        (answer, injector, state)
  shutdown := fun (injector, state) => (injector, inner.shutdown state)

end RowStream
