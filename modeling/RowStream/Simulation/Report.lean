import RowStream.Client.Faulty
import RowStream.Json
import RowStream.Session.Error

/-!
Contract: what a simulated run reports.

Owns:
- `SessionOutcome`, how one session ended;
- `Violation`, a promise found broken, with its text;
- `SimReport`, the tallies of a run, in words and as JSON;
- the summary of several runs.
-/

namespace RowStream

/-- How one session ended. -/
inductive SessionOutcome where
  | committed (stream : String) (rows : Nat)
  | aborted (stream : String) (rowsAdded : Nat)
  | openFailed (error : String)
  | failed (stream : String) (acknowledgedRows : Nat) (error : String)
deriving DecidableEq, Repr

/-- A promise found broken. -/
inductive Violation where
  | unexpectedOpenError (error : String)
  | fittingRowRejected (size ceiling : Nat)
  | bufferOverfull (stream : String) (bytes ceiling : Nat)
  | abortedFinalized (stream : String)
  | commitMiscounted (stream : String) (count accepted : Nat)
  | storedRowsDiffer (stream : String) (stored accepted : Nat)
  | committedNotFinalized (stream : String)
  | failureNotFailed (stream error : String) (phase : Phase)
  | finalizedMiscounted (stream : String) (actual expected : Nat)
  | acknowledgedMissing (stream : String) (acknowledged stored accepted : Nat)
  | acknowledgedDiffer (stream : String)
  | strayFinalization (stream : String)
  /-- A finding in an observer's own words. -/
  | noted (text : String)
deriving DecidableEq, Repr

def Violation.text : Violation → String
  | .unexpectedOpenError error => s!"open failed with unexpected error: {error}"
  | .fittingRowRejected size ceiling => s!"row of {size} bytes rejected under ceiling {ceiling}"
  | .bufferOverfull stream bytes ceiling =>
      s!"stream {stream} buffered {bytes} bytes over ceiling {ceiling}"
  | .abortedFinalized stream => s!"aborted stream {stream} was finalized"
  | .commitMiscounted stream count accepted =>
      s!"stream {stream} committed {count} rows but {accepted} were accepted"
  | .storedRowsDiffer stream stored accepted =>
      s!"stream {stream} stored {stored} rows that differ from the {accepted} accepted"
  | .committedNotFinalized stream => s!"committed stream {stream} is not finalized"
  | .failureNotFailed stream error phase =>
      s!"stream {stream} failed with '{error}' but session is {phase.name}"
  | .finalizedMiscounted stream actual expected =>
      s!"stream {stream} finalized {actual} rows, session expected {expected}"
  | .acknowledgedMissing stream acknowledged stored accepted =>
      s!"stream {stream} acknowledged {acknowledged} rows but stored {stored} " ++
        s!"and accepted {accepted}"
  | .acknowledgedDiffer stream => s!"stream {stream} acknowledged rows differ from stored rows"
  | .strayFinalization stream => s!"stream {stream} was finalized without a successful commit"
  | .noted text => text

/-- The tallies of a run. -/
structure SimReport where
  seed : UInt64
  sessions : Nat := 0
  committed : Nat := 0
  aborted : Nat := 0
  failed : Nat := 0
  openFailures : Nat := 0
  rowsAdded : Nat := 0
  rowsCommitted : Nat := 0
  oversizedRejections : Nat := 0
  counters : FaultCounters := {}
  violations : List Violation := []
  outcomes : List SessionOutcome := []
  /-- Summary of the decisions about faults. -/
  faultSummary : String := ""
deriving DecidableEq, Repr

namespace SessionOutcome

def toJson : SessionOutcome → Json
  | .committed stream rows =>
      .object [("outcome", .string "committed"), ("stream", .string stream), ("rows", .nat rows)]
  | .aborted stream rowsAdded =>
      .object [("outcome", .string "aborted"), ("stream", .string stream),
        ("rows_added", .nat rowsAdded)]
  | .openFailed error => .object [("outcome", .string "open_failed"), ("error", .string error)]
  | .failed stream acknowledgedRows error =>
      .object [("outcome", .string "failed"), ("stream", .string stream),
        ("acknowledged_rows", .nat acknowledgedRows), ("error", .string error)]

end SessionOutcome

def FaultCounters.toJson (counters : FaultCounters) : Json :=
  .object
    [("create_attempts", .nat counters.createAttempts),
     ("create_faults", .nat counters.createFaults),
     ("append_attempts", .nat counters.appendAttempts),
     ("append_server_errors", .nat counters.appendServerErrors),
     ("append_offset_skews", .nat counters.appendOffsetSkews),
     ("append_responses_dropped", .nat counters.appendResponsesDropped),
     ("finalize_attempts", .nat counters.finalizeAttempts),
     ("finalize_faults", .nat counters.finalizeFaults)]

namespace SimReport

/-- Whether no promise was found broken. -/
def succeeded (report : SimReport) : Bool := report.violations.isEmpty

/-- The report on one line. -/
def summary (report : SimReport) : String :=
  let ends := s!"{report.committed} committed, {report.aborted} aborted, {report.failed} failed"
  let sessions := s!"{report.sessions} sessions ({ends}, {report.openFailures} open failures)"
  let faults := s!"{report.counters.totalFaults} faults, {report.violations.length} violations"
  s!"Seed {report.seed}: {sessions}, {report.rowsCommitted} rows committed, {faults}"

def toJson (report : SimReport) : Json :=
  .object
    [("seed", .nat report.seed.toNat),
     ("sessions", .nat report.sessions),
     ("committed", .nat report.committed),
     ("aborted", .nat report.aborted),
     ("failed", .nat report.failed),
     ("open_failures", .nat report.openFailures),
     ("rows_added", .nat report.rowsAdded),
     ("rows_committed", .nat report.rowsCommitted),
     ("oversized_rejections", .nat report.oversizedRejections),
     ("client_stats", report.counters.toJson),
     ("invariant_violations", .array (report.violations.map fun found => .string found.text)),
     ("outcomes", .array (report.outcomes.map SessionOutcome.toJson)),
     ("buggify_summary", .string report.faultSummary)]

/-- Several reports on one line, and a second line with the seeds to look into. -/
def summarize (reports : List SimReport) : String :=
  let passed := reports.countP succeeded
  let total (measure : SimReport → Nat) : Nat :=
    reports.foldl (fun sum report => sum + measure report) 0
  let failedSeeds := (reports.filter fun report => !report.succeeded).map SimReport.seed
  let sessionCount := total sessions
  let commitCount := total committed
  let rowCount := total rowsCommitted
  let faultCount := total fun report => report.counters.totalFaults
  let sessionPart := s!"{sessionCount} sessions, {commitCount} committed, {rowCount} rows"
  let firstLine :=
    s!"Batch: {passed}/{reports.length} passed, {sessionPart}, {faultCount} faults injected"
  if failedSeeds.isEmpty then firstLine
  else
    let seeds := ", ".intercalate (failedSeeds.map fun seed => toString seed)
    s!"{firstLine}\nFailed seeds: [{seeds}]"

end SimReport

end RowStream
