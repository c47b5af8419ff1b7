import Mathlib.Algebra.GroupWithZero.Nat
import Mathlib.Data.List.Induction
import RowStream.Proofs.Simulation.NoViolation
import RowStream.Proofs.Store.Catalogue

/-!
Contract: the tallies of a simulated run balance, among each other and against the service.

Owns:
- `SessionOutcome.Ending`, the four ways in which sessions end, with the tally of each;
- `Housed`, what the service stores of the sessions that ended, and `Summed`, what the tallies
  say of their outcomes;
- `Balanced`, what a finished run reports.

Main statement: `Harness.tallies_balance`. Rates, generators, plans and the number of sessions
are arbitrary; only the configuration has to be free of flaws.
-/

namespace RowStream

namespace SessionOutcome

inductive Ending where
  | committed
  | aborted
  | unopened
  | failed
deriving DecidableEq, Repr

def ending : SessionOutcome → Ending
  | .committed .. => .committed
  | .aborted .. => .aborted
  | .openFailed .. => .unopened
  | .failed .. => .failed

def stream? : SessionOutcome → Option String
  | .committed stream _ => some stream
  | .aborted stream _ => some stream
  | .openFailed _ => none
  | .failed stream _ _ => some stream

/-- The rows that were committed, added before an abort or acknowledged before a failure. -/
def rows : SessionOutcome → Nat
  | .committed _ rows => rows
  | .aborted _ rowsAdded => rowsAdded
  | .openFailed _ => 0
  | .failed _ acknowledgedRows _ => acknowledgedRows

def count (ending : Ending) (outcomes : List SessionOutcome) : Nat :=
  outcomes.countP (·.ending = ending)

def total (ending : Ending) (outcomes : List SessionOutcome) : Nat :=
  ((outcomes.filter (·.ending = ending)).map rows).sum

def streams (outcomes : List SessionOutcome) : List String := outcomes.filterMap stream?

variable {outcome : SessionOutcome} {outcomes : List SessionOutcome} {ending : Ending}

theorem count_append (ending : Ending) (earlier later : List SessionOutcome) :
    count ending (earlier ++ later) = count ending earlier + count ending later :=
  List.countP_append

theorem count_singleton (ending : Ending) (outcome : SessionOutcome) :
    count ending [outcome] = if outcome.ending = ending then 1 else 0 := by
  simp [count, List.countP_singleton]

theorem total_append (ending : Ending) (earlier later : List SessionOutcome) :
    total ending (earlier ++ later) = total ending earlier + total ending later := by
  rw [total, List.filter_append, List.map_append, List.sum_append]
  rfl

theorem total_singleton (ending : Ending) (outcome : SessionOutcome) :
    total ending [outcome] = if outcome.ending = ending then outcome.rows else 0 := by
  by_cases same : outcome.ending = ending <;> simp [total, same]

/-- Every outcome is of one kind. The induction is on the last of them. -/
theorem count_endings (outcomes : List SessionOutcome) :
    count .committed outcomes + count .aborted outcomes + count .failed outcomes +
      count .unopened outcomes = outcomes.length := by
  induction outcomes using List.reverseRecOn with
  | nil => rfl
  | append_singleton outcomes outcome inductionHypothesis =>
      simp only [count_append, count_singleton, List.length_append, List.length_singleton]
      cases outcome.ending <;> simp <;> omega

theorem streams_concat (outcomes : List SessionOutcome) (outcome : SessionOutcome) :
    streams (outcomes ++ [outcome]) = streams outcomes ++ outcome.stream?.toList := by
  rw [streams, List.filterMap_append]
  cases named : outcome.stream? <;> simp [streams, named]

theorem stream?_eq_none : outcome.stream? = none ↔ outcome.ending = .unopened := by
  cases outcome <;> simp [stream?, SessionOutcome.ending]

theorem length_streams (outcomes : List SessionOutcome) :
    (streams outcomes).length + count .unopened outcomes = outcomes.length := by
  induction outcomes using List.reverseRecOn with
  | nil => rfl
  | append_singleton outcomes outcome inductionHypothesis =>
      rw [streams_concat, count_append, count_singleton, List.length_append, List.length_append]
      cases outcome <;> simp [stream?, SessionOutcome.ending] <;> omega

/-- The service stores the stream of an outcome, finalized if and only if it was committed and
then with as many rows as the outcome says. -/
def BorneOut (store : Store) (outcome : SessionOutcome) : Prop :=
  ∀ stream, outcome.stream? = some stream → ∃ record, store.find? stream = some record ∧
    record.finalized = decide (outcome.ending = .committed) ∧
    (outcome.ending = .committed → record.rows.size = outcome.rows)

theorem BorneOut.of_find? {before after : Store} (borneOut : outcome.BorneOut before)
    (same : ∀ stream, outcome.stream? = some stream → after.find? stream = before.find? stream) :
    outcome.BorneOut after := by
  intro stream named
  rw [same stream named]
  exact borneOut stream named

end SessionOutcome

namespace SimReport

open SessionOutcome (Ending)

def tally (report : SimReport) : Ending → Nat
  | .committed => report.committed
  | .aborted => report.aborted
  | .unopened => report.openFailures
  | .failed => report.failed

end SimReport

namespace Harness

open SessionOutcome (BorneOut count total streams)

variable {simulation : Simulation} {harness : Harness} {outcome : SessionOutcome}
  {outcomes : List SessionOutcome} {before after : SimStage} {stream : String}
  {record : StreamRecord} {plan : SessionPlan}

/-! ### The streams -/

theorem reached_catalogued (reached : Reached environment before after)
    (catalogued : Store.Catalogued before.store) : Store.Catalogued after.store := by
  have performed (act : Store.Act) (held : Store) :
      Store.Catalogued held → Store.Catalogued (held.perform act) :=
    fun catalogued => catalogued.perform act
  have keeps : Keeps environment fun before after =>
      Store.Catalogued (SimStage.store before) → Store.Catalogued (SimStage.store after) :=
    @Serves.keeps _ _ _ _ serves
      (fun held later => Store.Catalogued held → Store.Catalogued later) (fun _ => id)
      (fun early late => late ∘ early)
      (fun parent kind => performed (.create parent kind))
      (fun stream schema => performed (.bind stream schema))
      (fun appender batch offset => performed (.append appender batch offset))
      (fun appender => performed (.close appender))
      (fun stream => performed (.finalize stream))
  exact reached _ keeps catalogued

/-- What the service stores after sessions with these outcomes: a stream for each that was opened,
and no other. -/
structure Housed (outcomes : List SessionOutcome) (store : Store) : Prop where
  catalogued : Store.Catalogued store
  listed : ∀ stream, (store.find? stream).isSome ↔ stream ∈ streams outcomes
  distinct : (streams outcomes).Nodup
  borneOut : ∀ outcome ∈ outcomes, outcome.BorneOut store

theorem Housed.unopened {error : String} (housed : Housed outcomes before.store)
    (reached : Reached environment before after)
    (still : Still SimStage.store SimStage.faults before after) :
    Housed (outcomes ++ [.openFailed error]) after.store where
  catalogued := reached_catalogued reached housed.catalogued
  listed := by
    intro stream
    rw [still.find? stream, housed.listed stream, SessionOutcome.streams_concat]
    simp [SessionOutcome.stream?]
  distinct := by
    rw [SessionOutcome.streams_concat]
    simpa [SessionOutcome.stream?] using housed.distinct
  borneOut := by
    intro outcome listed
    rcases List.mem_append.mp listed with earlier | last
    · exact (housed.borneOut outcome earlier).of_find? fun stream _ => still.find? stream
    · rw [List.mem_singleton.mp last]
      intro stream named
      exact absurd named (by simp [SessionOutcome.stream?])

theorem Housed.unlisted (housed : Housed outcomes before.store)
    (hosted : Hosted simulation before stream record after) : stream ∉ streams outcomes := by
  have unused : before.store.find? stream = none := by
    rw [hosted.named]
    exact housed.catalogued.numbered simulation.table _ (Nat.lt_succ_self _)
  rw [← housed.listed stream, unused]
  simp

/-- The stream of a session comes to the others, whose records stay as they are. -/
theorem Housed.opened (housed : Housed outcomes before.store)
    (hosted : Hosted simulation before stream record after)
    (named : outcome.stream? = some stream)
    (finalized : record.finalized = decide (outcome.ending = .committed))
    (stored : outcome.ending = .committed → record.rows.size = outcome.rows) :
    Housed (outcomes ++ [outcome]) after.store where
  catalogued := reached_catalogued hosted.leads.reached housed.catalogued
  listed := by
    intro other
    rw [SessionOutcome.streams_concat, named]
    by_cases same : other = stream
    · rw [same, hosted.found]
      simp
    · rw [hosted.leads.within.confined.others other same, housed.listed other]
      simp [same]
  distinct := by
    rw [SessionOutcome.streams_concat, named]
    refine List.nodup_append.mpr ⟨housed.distinct, by simp, ?_⟩
    rintro other opened last listed rfl
    rw [List.mem_singleton.mp listed] at opened
    exact housed.unlisted hosted opened
  borneOut := by
    intro member listed
    rcases List.mem_append.mp listed with earlier | last
    · refine (housed.borneOut member earlier).of_find? fun other opened => ?_
      refine hosted.leads.within.confined.others other ?_
      rintro rfl
      exact housed.unlisted hosted (List.mem_filterMap.mpr ⟨member, earlier, opened⟩)
    · rw [List.mem_singleton.mp last]
      intro other opened
      rw [named] at opened
      rw [← Option.some.inj opened]
      exact ⟨record, hosted.found, finalized, stored⟩

/-- A session adds at most its own stream, with the rows and the state that its outcome tells. -/
theorem Turnout.housed {ended : SessionOutcome × Harness}
    (turnout : Turnout simulation plan harness ended)
    (housed : Housed harness.report.outcomes harness.store) :
    Housed (ended.2.countOutcome ended.1).report.outcomes
      (ended.2.countOutcome ended.1).store := by
  cases turnout with
  | unopened reached still struck => exact housed.unopened reached still
  | committed meant fitting oversized hosted finalized stored =>
      exact housed.opened hosted rfl finalized fun _ => stored
  | aborted meant fitting oversized hosted unfinished =>
      exact housed.opened hosted rfl unfinished fun committed => nomatch committed
  | failed hosted unfinished acknowledged_le struck =>
      exact housed.opened hosted rfl unfinished fun committed => nomatch committed

theorem Housed.streamNames_perm {store : Store} (housed : Housed outcomes store) :
    store.streamNames.Perm (streams outcomes) :=
  (Store.streamNames_perm store).trans
    ((List.perm_ext_iff_of_nodup housed.catalogued.distinct housed.distinct).mpr fun stream =>
      Store.mem_catalogue.trans (housed.listed stream))

/-- The finalized streams are those of the committed sessions. -/
theorem Housed.isFinalized_iff {store : Store} (housed : Housed outcomes store) :
    store.isFinalized stream = true ↔ ∃ rows, .committed stream rows ∈ outcomes := by
  constructor
  · intro finalized
    have found : (store.find? stream).isSome := by
      cases found : store.find? stream with
      | none => simp [Store.isFinalized, found] at finalized
      | some record => rfl
    obtain ⟨outcome, listed, named⟩ := List.mem_filterMap.mp ((housed.listed stream).mp found)
    obtain ⟨record, present, ended, _⟩ := housed.borneOut outcome listed stream named
    rw [Store.isFinalized_eq present, ended] at finalized
    cases outcome with
    | committed other rows =>
        rw [Option.some.inj named] at listed
        exact ⟨rows, listed⟩
    | aborted other rows => exact absurd finalized Bool.false_ne_true
    | openFailed error => exact absurd finalized Bool.false_ne_true
    | failed other rows error => exact absurd finalized Bool.false_ne_true
  · rintro ⟨rows, listed⟩
    obtain ⟨record, present, ended, _⟩ := housed.borneOut _ listed stream rfl
    rw [Store.isFinalized_eq present, ended]
    rfl

/-- The rows in finalized streams are those of the outcomes that say so. -/
theorem finalized_rows {store : Store} (outcomes : List SessionOutcome)
    (borneOut : ∀ outcome ∈ outcomes, outcome.BorneOut store) :
    (((streams outcomes).filter store.isFinalized).map fun stream => (store.rows stream).length) =
      (outcomes.filter (·.ending = .committed)).map SessionOutcome.rows := by
  induction outcomes with
  | nil => rfl
  | cons outcome outcomes inductionHypothesis =>
      have later := inductionHypothesis fun other listed =>
        borneOut other (List.mem_cons_of_mem outcome listed)
      cases named : outcome.stream? with
      | none =>
          have unopened := SessionOutcome.stream?_eq_none.mp named
          simp only [streams, List.filterMap_cons, named, List.filter_cons, unopened] at later ⊢
          exact later
      | some stream =>
          obtain ⟨record, present, ended, stored⟩ :=
            borneOut outcome List.mem_cons_self stream named
          have finalized := (Store.isFinalized_eq present).trans ended
          simp only [streams, List.filterMap_cons, named, List.filter_cons, finalized] at later ⊢
          by_cases committed : outcome.ending = .committed
          · have sized : (store.rows stream).length = outcome.rows := by
              rw [Store.rows_eq present, Array.length_toList, stored committed]
            simp only [committed, decide_true, if_true, List.map_cons, sized, later]
          · simp only [committed, decide_false, Bool.false_eq_true, if_false, later]

theorem Housed.finalized_total {store : Store} (housed : Housed outcomes store) :
    ((store.streamNames.filter store.isFinalized).map fun stream =>
      (store.rows stream).length).sum = total .committed outcomes := by
  have sums := ((housed.streamNames_perm.filter store.isFinalized).map fun stream =>
    (store.rows stream).length).sum_nat
  rw [sums, finalized_rows outcomes housed.borneOut]
  rfl

/-! ### The tallies -/

structure Summed (report : SimReport) : Prop where
  sessions : report.sessions = report.outcomes.length
  tallied : ∀ ending, report.tally ending = count ending report.outcomes
  committed : report.rowsCommitted = total .committed report.outcomes
  added : total .committed report.outcomes + total .aborted report.outcomes +
    total .failed report.outcomes ≤ report.rowsAdded

theorem Summed.concat {report later : SimReport} (summed : Summed report)
    (listed : later.outcomes = report.outcomes ++ [outcome])
    (counted : later.sessions = report.sessions + 1)
    (tallied : ∀ ending,
      later.tally ending = report.tally ending + if outcome.ending = ending then 1 else 0)
    (committed : later.rowsCommitted =
      report.rowsCommitted + if outcome.ending = .committed then outcome.rows else 0)
    (added : report.rowsAdded + outcome.rows ≤ later.rowsAdded) : Summed later where
  sessions := by
    rw [counted, listed, List.length_append, summed.sessions]
    rfl
  tallied := by
    intro ending
    rw [tallied, listed, SessionOutcome.count_append, SessionOutcome.count_singleton,
      summed.tallied]
  committed := by
    rw [committed, listed, SessionOutcome.total_append, SessionOutcome.total_singleton,
      summed.committed]
  added := by
    have earlier := summed.added
    simp only [listed, SessionOutcome.total_append, SessionOutcome.total_singleton]
    cases outcome.ending <;> simp <;> omega

theorem Turnout.summed {ended : SessionOutcome × Harness}
    (turnout : Turnout simulation plan harness ended) (summed : Summed harness.report) :
    Summed (ended.2.countOutcome ended.1).report := by
  cases turnout with
  | unopened reached still struck =>
      exact summed.concat rfl rfl (fun ending => by cases ending <;> rfl) rfl (Nat.le_refl _)
  | committed meant fitting oversized hosted finalized stored =>
      exact summed.concat rfl rfl (fun ending => by cases ending <;> rfl) rfl (Nat.le_refl _)
  | aborted meant fitting oversized hosted unfinished =>
      exact summed.concat rfl rfl (fun ending => by cases ending <;> rfl) rfl (Nat.le_refl _)
  | failed hosted unfinished acknowledged_le struck =>
      exact summed.concat rfl rfl (fun ending => by cases ending <;> rfl) rfl
        (Nat.add_le_add_left acknowledged_le _)

/-! ### A whole run -/

/-- A run whose tallies and whose service agree with its outcomes. -/
structure Tallied (harness : Harness) : Prop where
  housed : Housed harness.report.outcomes harness.store
  summed : Summed harness.report

theorem create_tallied (simulation : Simulation) (switch : FaultSwitch) :
    Tallied (create simulation switch) where
  housed :=
    { catalogued := Store.Catalogued.empty
      listed := fun stream => by simp [create, store, Store.find?, streams]
      distinct := List.nodup_nil
      borneOut := fun outcome listed => absurd listed List.not_mem_nil }
  summed := ⟨rfl, fun ending => by cases ending <;> rfl, rfl, Nat.le_refl 0⟩

/-- Over all plans the report and the service keep telling the same. -/
theorem Ran.tallied {plans : List SessionPlan} {after : Harness}
    (ran : Ran simulation plans harness after) (tallied : Tallied harness) : Tallied after := by
  induction ran with
  | none => exact tallied
  | next turnout rest inductionHypothesis =>
      exact inductionHypothesis ⟨turnout.housed tallied.housed, turnout.summed tallied.summed⟩

theorem Turnout.sessions_eq {ended : SessionOutcome × Harness}
    (turnout : Turnout simulation plan harness ended) :
    (ended.2.countOutcome ended.1).report.sessions = harness.report.sessions + 1 := by
  cases turnout <;> rfl

theorem Ran.sessions_eq {plans : List SessionPlan} {after : Harness}
    (ran : Ran simulation plans harness after) :
    after.report.sessions = harness.report.sessions + plans.length := by
  induction ran with
  | none => rfl
  | next turnout rest inductionHypothesis =>
      rw [inductionHypothesis, turnout.sessions_eq, List.length_cons, Nat.add_assoc,
        Nat.add_comm 1]

/-- Every session of a run is counted. -/
theorem run_sessions (switch : FaultSwitch) (sessions : Nat)
    (valid : simulation.session.validate = .ok ()) :
    ((create simulation switch).run sessions).report.sessions = sessions := by
  rw [(run_ran valid sessions (create_clean simulation switch)).sessions_eq, Workload.length_take]
  exact Nat.zero_add sessions

/-- A run from its creation on. -/
theorem run_tallied (switch : FaultSwitch) (sessions : Nat)
    (valid : simulation.session.validate = .ok ()) :
    Tallied ((create simulation switch).run sessions) :=
  (run_ran valid sessions (create_clean simulation switch)).tallied
    (create_tallied simulation switch)

/-- The final check takes over counters that no tally depends on. -/
theorem check_tallied (clean : Clean simulation harness) (tallied : Tallied harness) :
    Tallied harness.check := by
  rw [check_of_clean clean]
  refine ⟨tallied.housed, tallied.summed.sessions, ?_, tallied.summed.committed,
    tallied.summed.added⟩
  intro ending
  rw [← tallied.summed.tallied ending]
  cases ending <;> rfl

/-- What the report of a finished run says, against its outcomes and against the service. -/
structure Balanced (sessions : Nat) (report : SimReport) (store : Store) : Prop where
  sessions_eq : report.sessions = sessions
  outcomes_length : report.outcomes.length = sessions
  endings : report.committed + report.aborted + report.failed + report.openFailures = sessions
  tallied : ∀ ending, report.tally ending = count ending report.outcomes
  committed : report.rowsCommitted = total .committed report.outcomes
  stored : report.rowsCommitted =
    ((store.streamNames.filter store.isFinalized).map fun stream =>
      (store.rows stream).length).sum
  finalized : ∀ stream, store.isFinalized stream = true ↔
    ∃ rows, .committed stream rows ∈ report.outcomes
  distinct : store.streamNames.Nodup
  opened : store.streamNames.length + report.openFailures = sessions
  added : report.rowsCommitted + total .aborted report.outcomes + total .failed report.outcomes ≤
    report.rowsAdded

theorem Tallied.balanced {sessions : Nat} (tallied : Tallied harness)
    (counted : harness.report.sessions = sessions) :
    Balanced sessions harness.report harness.store where
  sessions_eq := counted
  outcomes_length := tallied.summed.sessions.symm.trans counted
  endings := by
    rw [← counted, tallied.summed.sessions, ← SessionOutcome.count_endings harness.report.outcomes]
    simp only [← tallied.summed.tallied, SimReport.tally]
  tallied := tallied.summed.tallied
  committed := tallied.summed.committed
  stored := tallied.summed.committed.trans tallied.housed.finalized_total.symm
  finalized := fun stream => tallied.housed.isFinalized_iff
  distinct := tallied.housed.streamNames_perm.nodup_iff.mpr tallied.housed.distinct
  opened := by
    rw [← counted, tallied.summed.sessions, tallied.housed.streamNames_perm.length_eq,
      ← SessionOutcome.length_streams harness.report.outcomes, ← tallied.summed.tallied]
    rfl
  added := by
    rw [tallied.summed.committed]
    exact tallied.summed.added

/-- Whatever the seed, the rates, the plans and the number of sessions: a run whose configuration
has no flaw counts each session once and by the way in which it ended, the finalized streams are
those of the sessions that committed, and no row is committed that was not added. -/
theorem tallies_balance (simulation : Simulation) (switch : FaultSwitch) (sessions : Nat)
    (valid : simulation.session.validate = .ok ()) :
    let ended := ((create simulation switch).run sessions).check
    Balanced sessions ended.report ended.store := by
  intro ended
  have clean := run_clean valid sessions (create_clean simulation switch)
  have tallied : Tallied ended := check_tallied clean (run_tallied switch sessions valid)
  refine tallied.balanced ?_
  rw [show ended = _ from check_of_clean clean]
  exact run_sessions switch sessions valid

/-- Frequent faults, oversized rows and aborts over fifty sessions. -/
theorem tallies_balance_chaos :
    (Simulation.chaos 7).session.validate = .ok () ∧
      let ended := ((create (.chaos 7) {}).run 50).check
      Balanced 50 ended.report ended.store :=
  ⟨rfl, tallies_balance (.chaos 7) {} 50 rfl⟩

end Harness

end RowStream
