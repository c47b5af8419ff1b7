import RowStream.Client.Faulty
import RowStream.Proofs.Store.AppendOnly

/-!
Contract: a client that lets faults strike is not noticed as long as none can.

Owns:
- `Client.converse`, any requests made of a client one after the other, with all the responses
  to them;
- `FaultInjector.Idle`, no fault can strike, and `FaultInjector.Undisturbed`, none did and
  nothing was drawn;
- `Client.respond_withFaults`, one request of a client behind an idle injector.

Main statement: `Store.faultless_transparent`.
-/

namespace RowStream

variable {σ : Type}

/-! ### Conversations -/

inductive Response where
  | created (answer : Except Status CreatedStream)
  | bound (answer : Except SystemError Appender)
  | appended (reply : AppendReply)
  | finalized (answer : Except Status Nat)
  | closed (answer : Except Status Unit)
  /-- Orders for faults and the shutdown are not answered. -/
  | none

namespace Client

/-- The response of a client to one act. Orders for faults go to the service behind it. -/
def respond (client : Client σ) (plan : Mishap → σ → σ) (state : σ) : Store.Act → Response × σ
  | .create parent kind =>
      let (answer, after) := client.create parent kind state
      (.created answer, after)
  | .bind stream schema =>
      let (answer, after) := client.bind stream schema state
      (.bound answer, after)
  | .append appender batch offset =>
      let (reply, after) := client.append appender batch offset state
      (.appended reply, after)
  | .finalize stream =>
      let (answer, after) := client.finalize stream state
      (.finalized answer, after)
  | .close appender =>
      let (answer, after) := client.close appender state
      (.closed answer, after)
  | .plan mishap => (.none, plan mishap state)
  | .shutdown => (.none, client.shutdown state)

def converse (client : Client σ) (plan : Mishap → σ → σ) :
    List Store.Act → σ → List Response × σ
  | [], state => ([], state)
  | act :: rest, state =>
      let (response, between) := client.respond plan state act
      let (responses, after) := client.converse plan rest between
      (response :: responses, after)

end Client

/-! ### An injector at rest -/

namespace FaultInjector

/-- No fault can strike: all are switched off, or none has a positive probability. -/
def Idle (injector : FaultInjector) : Prop :=
  injector.switch.table.enabled = false ∨ ∀ point, injector.rates.rate point ≤ 0.0

/-- Between two moments no fault struck, nothing was drawn and no setting changed. -/
structure Undisturbed (before after : FaultInjector) : Prop where
  rates : after.rates = before.rates
  table : after.switch.table = before.switch.table
  random : after.random = before.random
  triggers : after.switch.tally.triggers = before.switch.tally.triggers
  createFaults : after.counters.createFaults = before.counters.createFaults
  appendServerErrors : after.counters.appendServerErrors = before.counters.appendServerErrors
  appendOffsetSkews : after.counters.appendOffsetSkews = before.counters.appendOffsetSkews
  appendResponsesDropped :
    after.counters.appendResponsesDropped = before.counters.appendResponsesDropped
  finalizeFaults : after.counters.finalizeFaults = before.counters.finalizeFaults

namespace Undisturbed

variable {first second third : FaultInjector}

theorem refl (injector : FaultInjector) : Undisturbed injector injector :=
  ⟨rfl, rfl, rfl, rfl, rfl, rfl, rfl, rfl, rfl⟩

theorem trans (early : Undisturbed first second) (late : Undisturbed second third) :
    Undisturbed first third where
  rates := late.rates.trans early.rates
  table := late.table.trans early.table
  random := late.random.trans early.random
  triggers := late.triggers.trans early.triggers
  createFaults := late.createFaults.trans early.createFaults
  appendServerErrors := late.appendServerErrors.trans early.appendServerErrors
  appendOffsetSkews := late.appendOffsetSkews.trans early.appendOffsetSkews
  appendResponsesDropped := late.appendResponsesDropped.trans early.appendResponsesDropped
  finalizeFaults := late.finalizeFaults.trans early.finalizeFaults

theorem idle (undisturbed : Undisturbed first second) (idle : first.Idle) : second.Idle := by
  rw [Idle, undisturbed.table, undisturbed.rates]
  exact idle

/-- A request is counted without a fault. -/
theorem countCreate (undisturbed : Undisturbed first second) :
    Undisturbed first (second.countCreate false) :=
  undisturbed.trans ⟨rfl, rfl, rfl, rfl, rfl, rfl, rfl, rfl, rfl⟩

theorem countAppend (undisturbed : Undisturbed first second) :
    Undisturbed first (second.countAppend none) :=
  undisturbed.trans ⟨rfl, rfl, rfl, rfl, rfl, rfl, rfl, rfl, rfl⟩

theorem countFinalize (undisturbed : Undisturbed first second) :
    Undisturbed first (second.countFinalize false) :=
  undisturbed.trans ⟨rfl, rfl, rfl, rfl, rfl, rfl, rfl, rfl, rfl⟩

theorem totalFaults_eq (undisturbed : Undisturbed first second) :
    second.counters.totalFaults = first.counters.totalFaults := by
  rw [FaultCounters.totalFaults, undisturbed.createFaults, undisturbed.appendServerErrors,
    undisturbed.appendOffsetSkews, undisturbed.appendResponsesDropped, undisturbed.finalizeFaults]
  rfl

end Undisturbed

/-- Considering a fault leaves nothing but the note that it was considered. -/
theorem strikes_of_idle {injector : FaultInjector} (idle : injector.Idle) (point : FaultPoint) :
    (injector.strikes point).1 = false ∧ Undisturbed injector (injector.strikes point).2 := by
  have settled : injector.switch.table.enabled = false ∨ injector.rates.rate point ≤ 0.0 :=
    idle.imp_right fun never => never point
  rw [strikes, FaultSwitch.strikesWith_of_settled settled]
  exact ⟨rfl, rfl, rfl, rfl, rfl, rfl, rfl, rfl, rfl, rfl⟩

/-- However many faults are considered, none strikes. -/
theorem firstStrike_of_idle {injector : FaultInjector} (idle : injector.Idle)
    (points : List FaultPoint) :
    ∃ later, injector.firstStrike points = (none, later) ∧ Undisturbed injector later := by
  induction points generalizing injector with
  | nil => exact ⟨injector, rfl, .refl injector⟩
  | cons point rest inductionHypothesis =>
      obtain ⟨missed, undisturbed⟩ := strikes_of_idle idle point
      obtain ⟨later, rolled, quiet⟩ := inductionHypothesis (undisturbed.idle idle)
      refine ⟨later, ?_, undisturbed.trans quiet⟩
      rw [firstStrike]
      cases struck : injector.strikes point with
      | mk hit between =>
          rw [struck] at missed rolled
          rw [show hit = false from missed]
          exact rolled

end FaultInjector

/-! ### Requests behind an injector -/

namespace Client

def planBehind (plan : Mishap → σ → σ) (mishap : Mishap) (whole : FaultInjector × σ) :
    FaultInjector × σ :=
  (whole.1, plan mishap whole.2)

/-- Behind an idle injector every client responds as it does alone. -/
theorem respond_withFaults (inner : Client σ) (plan : Mishap → σ → σ) {injector : FaultInjector}
    (idle : injector.Idle) (state : σ) (act : Store.Act) :
    ∃ later, inner.withFaults.respond (planBehind plan) (injector, state) act =
        ((inner.respond plan state act).1, later, (inner.respond plan state act).2) ∧
      injector.Undisturbed later := by
  cases act with
  | create parent kind =>
      obtain ⟨later, rolled, quiet⟩ :=
        injector.firstStrike_of_idle idle [.createInvalidArgument, .createUnavailable]
      refine ⟨later.countCreate false, ?_, quiet.countCreate⟩
      simp only [respond, withFaults, rolled]
      rfl
  | bind stream schema => exact ⟨injector, rfl, .refl injector⟩
  | append appender batch offset =>
      obtain ⟨later, rolled, quiet⟩ := injector.firstStrike_of_idle idle
        [.appendServerError, .appendOffsetSkew, .appendResponseDropped]
      refine ⟨later.countAppend none, ?_, quiet.countAppend⟩
      simp only [respond, withFaults, rolled]
  | finalize stream =>
      obtain ⟨later, rolled, quiet⟩ :=
        injector.firstStrike_of_idle idle [.finalizeUnavailable, .finalizeDeadlineExceeded]
      refine ⟨later.countFinalize false, ?_, quiet.countFinalize⟩
      simp only [respond, withFaults, rolled]
      rfl
  | close appender => exact ⟨injector, rfl, .refl injector⟩
  | plan mishap => exact ⟨injector, rfl, .refl injector⟩
  | shutdown => exact ⟨injector, rfl, .refl injector⟩

/-- The induction is on the acts; an injector that is idle stays so. -/
theorem converse_withFaults (inner : Client σ) (plan : Mishap → σ → σ)
    {injector : FaultInjector} (idle : injector.Idle) (acts : List Store.Act) (state : σ) :
    ∃ later, inner.withFaults.converse (planBehind plan) acts (injector, state) =
        ((inner.converse plan acts state).1, later, (inner.converse plan acts state).2) ∧
      injector.Undisturbed later := by
  induction acts generalizing injector state with
  | nil => exact ⟨injector, rfl, .refl injector⟩
  | cons act rest inductionHypothesis =>
      obtain ⟨between, responded, quiet⟩ := inner.respond_withFaults plan idle state act
      obtain ⟨later, conversed, still⟩ :=
        inductionHypothesis (quiet.idle idle) (inner.respond plan state act).2
      refine ⟨later, ?_, quiet.trans still⟩
      simp only [converse, responded, conversed]

end Client

/-- Whatever is asked of a service, with whatever orders for faults of its own: through a client
that lets faults strike it responds as it does directly, and is left the same, if no fault can
strike. Nothing is drawn, no fault is counted, and no trigger is recorded. -/
theorem Store.faultless_transparent (injector : FaultInjector) (idle : injector.Idle)
    (acts : List Act) (store : Store) :
    let direct := client.converse Store.plan acts store
    let faulty := client.withFaults.converse (Client.planBehind Store.plan) acts (injector, store)
    faulty.1 = direct.1 ∧ faulty.2.2 = direct.2 ∧ faulty.2.1.random = injector.random ∧
      faulty.2.1.counters.totalFaults = injector.counters.totalFaults ∧
      faulty.2.1.switch.tally.triggers = injector.switch.tally.triggers := by
  intro direct faulty
  obtain ⟨later, conversed, undisturbed⟩ :=
    client.converse_withFaults Store.plan idle acts store
  have ended : faulty = (direct.1, later, direct.2) := conversed
  rw [ended]
  exact ⟨rfl, rfl, undisturbed.random, undisturbed.totalFaults_eq, undisturbed.triggers⟩

/-- No probability is positive. The service itself moves an acknowledgement. -/
theorem Store.faultless_transparent_of_skew :
    ∃ (injector : FaultInjector) (acts : List Act),
      injector = { rates := ⟨fun _ => -1.0⟩, random := { word := fun _ => 0 } } ∧
        acts = [.create "table" .pending, .bind (streamName "table" 1) ⟨"Row", .empty⟩,
          .plan (.skewAck 1), .append ⟨streamName "table" 1, false⟩ (.ofList [filledRow 3 1]) 0,
          .close ⟨streamName "table" 1, false⟩, .finalize (streamName "table" 1)] ∧
        let faulty :=
          client.withFaults.converse (Client.planBehind Store.plan) acts (injector, {})
        injector.switch.table.enabled = true ∧ injector.Idle ∧
          faulty.1 =
            [.created (.ok ⟨streamName "table" 1, .pending⟩),
              .bound (.ok ⟨streamName "table" 1, false⟩), .none, .appended (.appended 1),
              .closed (.ok ()), .finalized (.ok 1)] ∧
          faulty.2.2.rows (streamName "table" 1) = [filledRow 3 1] ∧
          faulty.2.1.random = injector.random ∧ faulty.2.1.counters.totalFaults = 0 := by
  have ran : ∃ (injector : FaultInjector) (acts : List Act),
      injector = { rates := ⟨fun _ => -1.0⟩, random := { word := fun _ => 0 } } ∧
        acts = [.create "table" .pending, .bind (streamName "table" 1) ⟨"Row", .empty⟩,
          .plan (.skewAck 1), .append ⟨streamName "table" 1, false⟩ (.ofList [filledRow 3 1]) 0,
          .close ⟨streamName "table" 1, false⟩, .finalize (streamName "table" 1)] ∧
        let direct := client.converse Store.plan acts {}
        injector.switch.table.enabled = true ∧ injector.counters.totalFaults = 0 ∧
          (-1.0 ≤ (0.0 : Float) → ∀ point, injector.rates.rate point ≤ 0.0) ∧
          direct.1 =
            [.created (.ok ⟨streamName "table" 1, .pending⟩),
              .bound (.ok ⟨streamName "table" 1, false⟩), .none, .appended (.appended 1),
              .closed (.ok ()), .finalized (.ok 1)] ∧
          direct.2.rows (streamName "table" 1) = [filledRow 3 1] := by
    refine ⟨_, _, rfl, rfl, rfl, rfl, fun negative _ => negative, rfl, rfl⟩
  obtain ⟨injector, acts, settings, planned, enabled, uncounted, never, answers, rows⟩ := ran
  have idle : injector.Idle := Or.inr (never (by decide +kernel))
  obtain ⟨responses, left, undrawn, quiet, _⟩ := faultless_transparent injector idle acts {}
  rw [← responses] at answers
  rw [← left] at rows
  exact ⟨injector, acts, settings, planned, enabled, idle, answers, rows, undrawn,
    quiet.trans uncounted⟩

end RowStream
