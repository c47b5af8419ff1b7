import RowStream.Session
import RowStream.Simulation.Report
import RowStream.Simulation.Workload
import RowStream.Stage
import RowStream.Store

/-!
Contract: running planned sessions against a service with faults, and checking that what
they were told is true.

Owns:
- `Harness`, the stage of a run, the plans still to come and the report so far;
- `Harness.run`, which lets sessions run one after another, and `Harness.check`, which
  looks at the service as a whole;
- batches of runs with successive seeds.

The rows that a session accepted are remembered and compared with what the service
stores.
-/

namespace RowStream

/-- The state behind the client of a simulated session. -/
abbrev SimStage := Stage (FaultInjector × Store)

structure Harness where
  simulation : Simulation
  stage : SimStage
  workload : Workload
  /-- Streams that a commit was reported successful for. -/
  committedStreams : List String := []
  report : SimReport

namespace Harness

/-- A run before its first session. The switch that decides about faults is set back to
the standard table without any record. -/
def create (simulation : Simulation) (switch : FaultSwitch) : Harness where
  simulation := simulation
  stage :=
    { backend :=
        ({ rates := simulation.rates
           random := .seeded (simulation.seed + 1)
           switch := { switch with table := .standard }.resetTally },
         {}) }
  workload := .ofSimulation simulation
  report := { seed := simulation.seed }

def store (harness : Harness) : Store := harness.stage.backend.2

def injector (harness : Harness) : FaultInjector := harness.stage.backend.1

/-- The run after changing its service from outside. -/
def changeStore (change : Store → Store) (harness : Harness) : Harness :=
  { harness with
    stage := { harness.stage with backend := (harness.injector, change harness.store) } }

/-- What simulated sessions deal with: the service behind faults, and no cancellation. -/
def environment : Environment SimStage :=
  .onStage Store.client.withFaults.onStage none

/-- The seed of a session's own generator. -/
def sessionSeed (seed : UInt64) (number : Nat) : UInt64 :=
  seed * 1000003 + UInt64.ofNat number

/-- The schema of simulated rows, which nothing looks at. -/
def rowSchema : Schema := ⟨"DstRow", "dst-descriptor".toUTF8⟩

/-- The content of the row at a position of a plan. -/
def plannedRow (position size : Nat) : Row :=
  filledRow size (UInt8.ofNat (position % 251))

/-- Reports a promise found broken. -/
def violate (violation : Violation) (harness : Harness) : Harness :=
  { harness with
    stage := harness.stage.report (.invariantViolated harness.simulation.seed violation.text)
    report := { harness.report with violations := harness.report.violations ++ [violation] } }

/-- Reports a promise as broken where a condition says so. -/
def violateIf (broken : Bool) (violation : Violation) (harness : Harness) : Harness :=
  if broken then harness.violate violation else harness

/-- A session in progress, with the rows it accepted so far. -/
structure Progress where
  session : Session
  accepted : Array Row := #[]

def countAdded (harness : Harness) : Harness :=
  { harness with report := { harness.report with rowsAdded := harness.report.rowsAdded + 1 } }

def countRejected (harness : Harness) : Harness :=
  { harness with
    report :=
      { harness.report with oversizedRejections := harness.report.oversizedRejections + 1 } }

/-- Looks at the buffer after a row. -/
def checkBuffer (stream : String) (session : Session) (harness : Harness) : Harness :=
  harness.violateIf (decide (session.ceiling < session.pendingBytes))
    (.bufferOverfull stream session.pendingBytes session.ceiling)

/-- Offers the rows of a plan from a position on, until one fails the session. -/
def offerRows (stream : String) : (sizes : List Nat) → (position : Nat) → Progress → Harness →
    Option SessionError × Progress × Harness
  | [], _, progress, harness => (none, progress, harness)
  | size :: sizes, position, progress, harness =>
      let row := plannedRow position size
      let (result, session, stage) := progress.session.add environment row harness.stage
      let harness := { harness with stage := stage }
      match result with
      | .ok () =>
          offerRows stream sizes (position + 1) ⟨session, progress.accepted.push row⟩
            (harness.countAdded.checkBuffer stream session)
      | .error (.rowTooLarge size ceiling) =>
          let harness := harness.countRejected.violateIf (decide (size ≤ ceiling))
            (.fittingRowRejected size ceiling)
          offerRows stream sizes (position + 1) { progress with session := session }
            (harness.checkBuffer stream session)
      | .error error => (some error, { progress with session := session }, harness)

/-- Compares a successful commit with the rows that were accepted. -/
def checkCommitted (stream : String) (count : Nat) (accepted : List Row) (harness : Harness) :
    Harness :=
  let stored := harness.store.rows stream
  let harness := harness.violateIf (count != accepted.length)
    (.commitMiscounted stream count accepted.length)
  let harness := harness.violateIf (stored != accepted)
    (.storedRowsDiffer stream stored.length accepted.length)
  harness.violateIf (!harness.store.isFinalized stream) (.committedNotFinalized stream)

/-- Compares a failed session with the rows that were accepted and with the service. -/
def checkFailed (stream : String) (error : SessionError) (accepted : List Row)
    (session : Session) (harness : Harness) : Harness :=
  let harness := harness.violateIf (session.phase != .failed)
    (.failureNotFailed stream error.text session.phase)
  let harness := match error.rowCountMismatch? with
    | some (expected, actual) => harness.violate (.finalizedMiscounted stream actual expected)
    | none => harness
  let stored := harness.store.rows stream
  let acknowledged := session.committedCount
  if stored.length < acknowledged ∨ accepted.length < acknowledged then
    harness.violate
      (.acknowledgedMissing stream acknowledged stored.length accepted.length)
  else
    harness.violateIf (stored.take acknowledged != accepted.take acknowledged)
      (.acknowledgedDiffer stream)

def countCommitted (stream : String) (rows : Nat) (harness : Harness) : Harness :=
  { harness with
    committedStreams := stream :: harness.committedStreams
    report :=
      { harness.report with rowsCommitted := harness.report.rowsCommitted + rows } }

/-- Ends a session that failed. -/
def giveUp (stream : String) (error : SessionError) (progress : Progress)
    (harness : Harness) : SessionOutcome × Harness :=
  let session := progress.session
  let harness := harness.checkFailed stream error progress.accepted.toList session
  let (_, stage) := session.abort environment harness.stage
  (.failed stream session.committedCount error.text, { harness with stage := stage })

/-- Ends a session in which every row was accepted or refused for its size. -/
def finish (stream : String) (abort : Bool) (progress : Progress) (harness : Harness) :
    SessionOutcome × Harness :=
  if abort then
    let (_, stage) := progress.session.abort environment harness.stage
    let harness := { harness with stage := stage }
    (.aborted stream progress.accepted.size,
      harness.violateIf (harness.store.isFinalized stream) (.abortedFinalized stream))
  else
    let (result, session, stage) := progress.session.commit environment harness.stage
    let harness := { harness with stage := stage }
    match result with
    | .ok count =>
        (.committed stream count,
          (harness.checkCommitted stream count progress.accepted.toList).countCommitted stream
            count)
    | .error error => harness.giveUp stream error { progress with session := session }

/-- Runs one session from its opening to its end. -/
def runSession (plan : SessionPlan) (harness : Harness) : SessionOutcome × Harness :=
  let report := { harness.report with sessions := harness.report.sessions + 1 }
  let harness := { harness with report := report }
  let simulation := harness.simulation
  let random := Random.seeded (sessionSeed simulation.seed report.sessions)
  let (opened, stage) :=
    Session.start environment simulation.table rowSchema simulation.session random harness.stage
  let harness := { harness with stage := stage }
  match opened with
  | .error (.streamCreation table error) =>
      (.openFailed (SessionError.streamCreation table error).text, harness)
  | .error error =>
      (.openFailed error.text, harness.violate (.unexpectedOpenError error.text))
  | .ok session =>
      let stream := session.streamText
      match offerRows stream plan.rowSizes 0 ⟨session, #[]⟩ harness with
      | (some error, progress, harness) => harness.giveUp stream error progress
      | (none, progress, harness) => harness.finish stream plan.abort progress

/-- The report with one more outcome. -/
def countOutcome (outcome : SessionOutcome) (harness : Harness) : Harness :=
  let report := { harness.report with outcomes := harness.report.outcomes ++ [outcome] }
  { harness with
    report := match outcome with
      | .committed .. => { report with committed := report.committed + 1 }
      | .aborted .. => { report with aborted := report.aborted + 1 }
      | .openFailed .. => { report with openFailures := report.openFailures + 1 }
      | .failed .. => { report with failed := report.failed + 1 } }

/-- Runs the next session of the workload. -/
def step (harness : Harness) : Harness :=
  let (plan, workload) := harness.workload.next
  let (outcome, harness) := { harness with workload := workload }.runSession plan
  harness.countOutcome outcome

/-- Runs sessions one after another. -/
def run : (sessions : Nat) → Harness → Harness
  | 0, harness => harness
  | sessions + 1, harness => run sessions harness.step

/-- Looks for streams that were finalized although no commit succeeded, and takes over the
counters of the faults. -/
def check (harness : Harness) : Harness :=
  let checked := harness.store.streamNames.foldl
    (fun harness stream =>
      harness.violateIf
        (harness.store.isFinalized stream && !harness.committedStreams.contains stream)
        (.strayFinalization stream))
    harness
  { checked with
    report :=
      { checked.report with
        counters := checked.injector.counters
        faultSummary := checked.injector.switch.tally.summary } }

/-- What is left of a run when it is over. -/
structure Finished where
  report : SimReport
  events : Array Event

/-- One run with its final check, and the switch as the run left it. -/
def complete (simulation : Simulation) (sessions : Nat) (switch : FaultSwitch) :
    Finished × FaultSwitch :=
  let harness := ((create simulation switch).run sessions).check
  (⟨harness.report, harness.stage.events⟩, harness.injector.switch)

/-- Runs with successive seeds, one switch serving them all. -/
def batch (simulationOf : UInt64 → Simulation) (sessions : Nat) :
    (count : Nat) → (seed : UInt64) → FaultSwitch → List Finished × FaultSwitch
  | 0, _, switch => ([], switch)
  | count + 1, seed, switch =>
      let (finished, switch) := complete (simulationOf seed) sessions switch
      let (later, switch) := batch simulationOf sessions count (seed + 1) switch
      (finished :: later, switch)

end Harness

end RowStream
