import RowStream.Proofs.Session.Account
import RowStream.Proofs.Session.Naming

/-!
Contract: all that one session of a simulated run can come to.

Owns:
- `Clean`, a run that has reported nothing and in which every finalized stream is one that
  a commit was reported for, and `CleanBut`, the same but for the stream in use;
- `Running` and `Stopped`, a session in progress and one that failed;
- `Offered`, what offering the rows of a plan comes to;
- `Turnout`, what a session comes to: its outcome, the rows counted for it, and the record of
  its stream;
- `Ran`, sessions one after the other.

Main statements: `Harness.runSession_turnout` and `Harness.run_ran`. Rates, generators and plans
are arbitrary; only the configuration has to be free of flaws. Two of the four ways to end need
a fault to strike.
-/

namespace RowStream

namespace SessionPlan

def fitting (ceiling : Nat) (plan : SessionPlan) : Nat := plan.rowSizes.countP (· ≤ ceiling)

def oversized (ceiling : Nat) (plan : SessionPlan) : Nat := plan.rowSizes.countP (ceiling < ·)

end SessionPlan

namespace Harness

variable {simulation : Simulation} {harness : Harness} {stream : String} {progress : Progress}
  {stage : SimStage}

theorem serves : Serves environment SimStage.store SimStage.faults := by
  rw [← simulated_eq_harness]
  exact serves_simulated true none

theorem steady : Steady environment := by
  rw [← simulated_eq_harness]
  exact steady_simulated true none

/-- A run between two of its sessions. -/
structure Clean (simulation : Simulation) (harness : Harness) : Prop where
  settings : harness.simulation = simulation
  unscripted : harness.store.script = {}
  listed : ∀ stream, harness.store.isFinalized stream = true → stream ∈ harness.committedStreams
  unviolated : harness.report.violations = []

structure CleanBut (simulation : Simulation) (stream : String) (harness : Harness) : Prop where
  settings : harness.simulation = simulation
  unscripted : harness.store.script = {}
  listed : ∀ other, other ≠ stream → harness.store.isFinalized other = true →
    other ∈ harness.committedStreams
  unviolated : harness.report.violations = []

structure Running (simulation : Simulation) (stream : String) (progress : Progress)
    (harness : Harness) : Prop where
  around : CleanBut simulation stream harness
  consistent : Session.Consistent progress.session
  inStep : Session.InStepAt SimStage.store stream progress.accepted.toList progress.session
    harness.stage

structure Stopped (simulation : Simulation) (stream : String) (error : SessionError)
    (progress : Progress) (harness : Harness) : Prop where
  around : CleanBut simulation stream harness
  halted : ∃ record, harness.store.find? stream = some record ∧
    Session.Halted progress.accepted.toList record progress.session ∧ record.finalized = false
  notMiscounted : error.rowCountMismatch? = none

/-! ### Reports -/

theorem violateIf_of_not {broken : Bool} (violation : Violation) (holds : broken = false) :
    harness.violateIf broken violation = harness := by
  rw [holds]
  rfl

theorem checkBuffer_of_consistent {session : Session} (consistent : session.Consistent) :
    harness.checkBuffer stream session = harness := by
  refine violateIf_of_not _ (decide_eq_false ?_)
  have bounded := consistent.bytes_le
  omega

theorem rows_bne_self (rows : List Row) : (rows != rows) = false := by
  have reflexive : ReflBEq Row := ⟨fun {row} => beq_self_eq_true row.data⟩
  rw [bne, beq_self_eq_true]
  rfl

/-- The check after a commit finds nothing wrong where the account is right. -/
theorem checkCommitted_of_complete {count : Nat} {accepted : List Row} {record : StreamRecord}
    {session : Session} (found : harness.store.find? stream = some record)
    (complete : Session.Complete accepted record session) (counted : count = accepted.length) :
    harness.checkCommitted stream count accepted = harness := by
  have stored : harness.store.rows stream = accepted := by
    rw [Store.rows_eq found, complete.stored]
  have finalized : harness.store.isFinalized stream = true := by
    rw [Store.isFinalized_eq found, complete.finalized]
  have counts : (count != accepted.length) = false := by
    rw [counted]
    exact bne_self_eq_false _
  have ended : (!harness.store.isFinalized stream) = false := by
    rw [finalized]
    rfl
  simp only [checkCommitted]
  rw [violateIf_of_not _ counts, stored, violateIf_of_not _ (rows_bne_self accepted),
    violateIf_of_not _ ended]

theorem checkFailed_of_stopped {error : SessionError}
    (stopped : Stopped simulation stream error progress harness) :
    harness.checkFailed stream error progress.accepted.toList progress.session = harness := by
  obtain ⟨record, found, halted, _⟩ := stopped.halted
  obtain ⟨acknowledged, counted, divided, either⟩ := halted.divided
  have stored : harness.store.rows stream = record.rows.toList := Store.rows_eq found
  have grows : ∃ more, record.rows.toList = acknowledged ++ more := by
    rcases either with behind | ahead
    · exact ⟨[], by rw [behind, List.append_nil]⟩
    · exact ⟨_, ahead.trans divided⟩
  obtain ⟨more, storedEq⟩ := grows
  simp only [checkFailed, stopped.notMiscounted]
  rw [violateIf_of_not _ (by simp [halted.hasFailed]), stored, storedEq, divided, ← counted,
    if_neg (by simp), List.take_left, List.take_left]
  exact violateIf_of_not _ (rows_bne_self acknowledged)

/-! ### The service -/

/-- The run with its service at another stage, and with so many more rows accepted and refused. -/
def book (accepted refused : Nat) (stage : SimStage) (harness : Harness) : Harness :=
  { harness with
    stage := stage
    report :=
      { harness.report with
        rowsAdded := harness.report.rowsAdded + accepted
        oversizedRejections := harness.report.oversizedRejections + refused } }

theorem book_book (accepted refused more others : Nat) (between stage : SimStage)
    (harness : Harness) :
    (harness.book accepted refused between).book more others stage =
      harness.book (accepted + more) (refused + others) stage := by
  simp only [book, Nat.add_assoc]

def countSession (harness : Harness) : Harness :=
  { harness with report := { harness.report with sessions := harness.report.sessions + 1 } }

/-- Requests lead from one stage to the other, and they concern one stream alone. -/
structure Leads (stream : String) (before after : SimStage) : Prop where
  reached : Reached environment before after
  within : Within SimStage.store SimStage.faults stream before after

theorem Leads.refl (stream : String) (stage : SimStage) : Leads stream stage stage :=
  ⟨(reached_keeps environment).refl stage, (Still.refl stage).within stream⟩

theorem Leads.trans {first second third : SimStage} (left : Leads stream first second)
    (right : Leads stream second third) : Leads stream first third :=
  ⟨(reached_keeps environment).trans left.reached right.reached, left.within.trans right.within⟩

theorem CleanBut.booked (around : CleanBut simulation stream harness) (accepted refused : Nat)
    (within : Within SimStage.store SimStage.faults stream harness.stage stage) :
    CleanBut simulation stream (harness.book accepted refused stage) where
  settings := around.settings
  unscripted := within.confined.unscripted around.unscripted
  listed := by
    intro other apart finalized
    have same := Store.isFinalized_congr (within.confined.others other apart)
    exact around.listed other apart (same.symm.trans finalized)
  unviolated := around.unviolated

theorem Clean.counted (clean : Clean simulation harness) : Clean simulation harness.countSession :=
  ⟨clean.settings, clean.unscripted, clean.listed, clean.unviolated⟩

theorem Clean.during (clean : Clean simulation harness) (stream : String) :
    CleanBut simulation stream harness :=
  ⟨clean.settings, clean.unscripted, fun other _ => clean.listed other, clean.unviolated⟩

theorem CleanBut.settled (around : CleanBut simulation stream harness)
    (owned : harness.store.isFinalized stream = true → stream ∈ harness.committedStreams) :
    Clean simulation harness where
  settings := around.settings
  unscripted := around.unscripted
  listed := by
    intro other finalized
    by_cases same : other = stream
    · rw [same] at finalized ⊢
      exact owned finalized
    · exact around.listed other same finalized
  unviolated := around.unviolated

theorem Clean.moved (clean : Clean simulation harness)
    (still : Still SimStage.store SimStage.faults harness.stage stage) :
    Clean simulation { harness with stage := stage } where
  settings := clean.settings
  unscripted := still.records.unscripted clean.unscripted
  listed := by
    intro other finalized
    have same := Store.isFinalized_congr (still.find? other)
    exact clean.listed other (same.symm.trans finalized)
  unviolated := clean.unviolated

theorem Stopped.of_failure {error : SessionError} {session : Session}
    (around : CleanBut simulation stream harness)
    (within : Within SimStage.store SimStage.faults stream harness.stage stage)
    (failure : Session.Failure SimStage.store stream progress.accepted.toList harness.stage error
      session stage) :
    Stopped simulation stream error { progress with session := session }
      (harness.book 0 0 stage) where
  around := around.booked 0 0 within
  halted := by
    obtain ⟨record, found, halted, unfinished⟩ := failure.halted
    exact ⟨record, found, halted, unfinished around.unscripted⟩
  notMiscounted := failure.notMiscounted around.unscripted

/-! ### Offering rows -/

/-- What offering rows comes to: each is accepted or, where it exceeds the ceiling, refused, unless
a fault stops the session. -/
inductive Offered (simulation : Simulation) (stream : String) (sizes : List Nat)
    (progress : Progress) (before : Harness) : Option SessionError × Progress × Harness → Prop where
  | all {ended : Progress} {accepted refused : Nat} {stage : SimStage}
      (fitting : sizes.countP (· ≤ simulation.session.ceiling) = accepted)
      (oversized : sizes.countP (simulation.session.ceiling < ·) = refused)
      (running : Running simulation stream ended (before.book accepted refused stage))
      (leads : Leads stream before.stage stage)
      (counted : ended.accepted.size = progress.accepted.size + accepted) :
      Offered simulation stream sizes progress before
        (none, ended, before.book accepted refused stage)
  | stopped {error : SessionError} {ended : Progress} {accepted refused : Nat} {stage : SimStage}
      (stopped : Stopped simulation stream error ended (before.book accepted refused stage))
      (leads : Leads stream before.stage stage)
      (struck : before.stage.faults < stage.faults)
      (counted : ended.accepted.size = progress.accepted.size + accepted) :
      Offered simulation stream sizes progress before
        (some error, ended, before.book accepted refused stage)

/-- One row goes before the others. -/
theorem Offered.after {size accepted refused : Nat} {sizes : List Nat} {later : Progress}
    {between : SimStage} {ended : Option SessionError × Progress × Harness}
    (offered : Offered simulation stream sizes later (harness.book accepted refused between) ended)
    (leads : Leads stream harness.stage between)
    (fitting : [size].countP (· ≤ simulation.session.ceiling) = accepted)
    (oversized : [size].countP (simulation.session.ceiling < ·) = refused)
    (counted : later.accepted.size = progress.accepted.size + accepted) :
    Offered simulation stream (size :: sizes) progress harness ended := by
  cases offered with
  | all fits exceeds running onwards recounted =>
      rw [book_book] at running ⊢
      refine .all ?_ ?_ running (leads.trans onwards) (by omega)
      · rw [← List.singleton_append, List.countP_append, fitting, fits]
      · rw [← List.singleton_append, List.countP_append, oversized, exceeds]
  | stopped stopped onwards struck recounted =>
      rw [book_book] at stopped ⊢
      exact .stopped stopped (leads.trans onwards)
        (Nat.lt_of_le_of_lt leads.within.faults_le struck) (by omega)

section OneRow

variable {size position : Nat} {sizes : List Nat} {session : Session}

theorem offerRows_of_accepted
    (added : progress.session.add environment (plannedRow position size) harness.stage =
      (.ok (), session, stage)) (consistent : session.Consistent) :
    offerRows stream (size :: sizes) position progress harness =
      offerRows stream sizes (position + 1)
        ⟨session, progress.accepted.push (plannedRow position size)⟩ (harness.book 1 0 stage) := by
  simp only [offerRows, added]
  rw [checkBuffer_of_consistent consistent]
  rfl

theorem offerRows_of_tooLarge {bytes ceiling : Nat}
    (added : progress.session.add environment (plannedRow position size) harness.stage =
      (.error (.rowTooLarge bytes ceiling), progress.session, harness.stage))
    (large : ceiling < bytes) (consistent : progress.session.Consistent) :
    offerRows stream (size :: sizes) position progress harness =
      offerRows stream sizes (position + 1) progress (harness.book 0 1 harness.stage) := by
  simp only [offerRows, added]
  rw [violateIf_of_not _ (by simpa using large), checkBuffer_of_consistent consistent]
  rfl

/-- The first row that fails ends the offering. -/
theorem offerRows_of_failure {error : SessionError}
    (added : progress.session.add environment (plannedRow position size) harness.stage =
      (.error error, session, stage))
    (other : ∀ bytes ceiling, error ≠ .rowTooLarge bytes ceiling) :
    offerRows stream (size :: sizes) position progress harness =
      (some error, { progress with session := session }, harness.book 0 0 stage) := by
  simp only [offerRows, added]
  cases error with
  | rowTooLarge bytes ceiling => exact absurd rfl (other bytes ceiling)
  | _ => rfl

end OneRow

/-- The induction is on the rows that are left, and the session is in step with the service at each
of them. -/
theorem offerRows_offered (sizes : List Nat) (position : Nat)
    (running : Running simulation stream progress harness)
    (settings : progress.session.config = simulation.session) :
    Offered simulation stream sizes progress harness
      (offerRows stream sizes position progress harness) := by
  induction sizes generalizing position progress harness with
  | nil => exact .all rfl rfl running (.refl stream harness.stage) rfl
  | cons size sizes inductionHypothesis =>
      have step := Session.add_step environment (plannedRow position size) progress.session
        harness.stage
      have kept := running.consistent.add step
      have configured := step.config_eq.trans settings
      have reached := step.kept (reached_keeps environment)
      obtain ⟨within, outcome⟩ := step.outcome serves running.consistent running.inStep
      have sized : (plannedRow position size).size = size := size_filledRow size _
      have ceiling : progress.session.ceiling = simulation.session.ceiling := by
        rw [Session.ceiling, settings]
      cases added : progress.session.add environment (plannedRow position size) harness.stage with
      | mk result rest =>
        rw [added] at step kept configured reached within outcome
        cases result with
        | ok done =>
            have next : Running simulation stream
                ⟨rest.1, progress.accepted.push (plannedRow position size)⟩
                (harness.book 1 0 rest.2) := by
              refine ⟨running.around.booked 1 0 within, kept, ?_⟩
              rw [Array.toList_push]
              exact outcome
            have fits : size ≤ simulation.session.ceiling := by
              have accepted := step.fits_of_ok rfl
              omega
            rw [offerRows_of_accepted added kept]
            refine (inductionHypothesis (position + 1) next configured).after ⟨reached, within⟩
              ?_ ?_ (Array.size_push _)
            · simp [fits]
            · simp [Nat.not_lt.mpr fits]
        | error error =>
            rcases outcome with ⟨large, tooLarge, unchanged⟩ | failure
            · have exceeds : simulation.session.ceiling < size := by omega
              have next : Running simulation stream progress (harness.book 0 1 harness.stage) :=
                ⟨running.around.booked 0 1 ((Still.refl _).within stream), running.consistent,
                  running.inStep⟩
              simp only at unchanged
              rw [tooLarge, unchanged] at added
              rw [offerRows_of_tooLarge added large running.consistent]
              refine (inductionHypothesis (position + 1) next settings).after
                (.refl stream harness.stage) ?_ ?_ rfl
              · simp [Nat.not_le.mpr exceeds]
              · simp [exceeds]
            · have struck : harness.stage.faults < rest.2.faults := by
                refine Nat.lt_of_le_of_ne within.faults_le fun quiet => ?_
                exact failure.notTooLarge _ _ (step.tooLarge_of_quiet serves running.inStep rfl
                  running.around.unscripted rfl quiet.symm)
              rw [offerRows_of_failure added failure.notTooLarge]
              exact .stopped (.of_failure running.around within failure) ⟨reached, within⟩ struck
                rfl

/-! ### Ending -/

/-- Giving up finds nothing broken. -/
theorem giveUp_of_stopped {error : SessionError}
    (stopped : Stopped simulation stream error progress harness) :
    harness.giveUp stream error progress =
      (.failed stream progress.session.committedCount error.text,
        harness.book 0 0 (progress.session.abort environment harness.stage).2) := by
  simp only [giveUp]
  rw [checkFailed_of_stopped stopped]
  rfl

/-- Releasing the connection of a session changes no record. -/
theorem abort_leads {accepted : List Row} {record : StreamRecord} {session : Session}
    (found : stage.store.find? stream = some record)
    (account : Session.Account stream accepted record session) :
    Leads stream stage (session.abort environment stage).2 ∧
      (session.abort environment stage).2.store.find? stream = some record := by
  have step := Session.abort_step environment session stage
  obtain ⟨still, kept, _⟩ := step.outcome serves found account
  exact ⟨⟨step.kept (reached_keeps environment), still.within stream⟩, kept⟩

/-- An abort finds nothing broken. -/
theorem finish_of_abort (running : Running simulation stream progress harness) :
    harness.finish stream true progress =
      (.aborted stream progress.accepted.size,
        harness.book 0 0 (progress.session.abort environment harness.stage).2) := by
  obtain ⟨record, found, inStep⟩ := running.inStep
  obtain ⟨_, stored⟩ := abort_leads found (.open inStep)
  have unfinished : (store { harness with
      stage := (progress.session.abort environment harness.stage).2 }).isFinalized stream = false :=
    (Store.isFinalized_eq stored).trans inStep.unfinished
  simp only [finish, if_true]
  rw [violateIf_of_not _ unfinished]
  rfl

/-- A commit that succeeds finds nothing broken. -/
theorem finish_of_commit {count : Nat} {session : Session}
    (running : Running simulation stream progress harness)
    (committed : progress.session.commit environment harness.stage = (.ok count, session, stage)) :
    harness.finish stream false progress =
      (.committed stream progress.accepted.size,
        (harness.book 0 0 stage).countCommitted stream progress.accepted.size) := by
  have step := Session.commit_step environment progress.session harness.stage
  obtain ⟨_, outcome⟩ := step.outcome serves running.consistent running.inStep
  rw [committed] at outcome
  obtain ⟨counted, after, stored, complete⟩ := outcome
  have present : (store { harness with stage := stage }).find? stream = some after := stored
  simp only [finish, Bool.false_eq_true, if_false, committed]
  rw [checkCommitted_of_complete present complete counted, counted, Array.length_toList]
  rfl

theorem finish_of_failure (harness : Harness) {error : SessionError} {session : Session}
    (refused : progress.session.commit environment harness.stage =
      (.error error, session, stage)) :
    harness.finish stream false progress =
      (harness.book 0 0 stage).giveUp stream error { progress with session := session } := by
  simp only [finish, Bool.false_eq_true, if_false, refused]
  rfl

/-! ### One session -/

/-- A session on the next stream: the requests it made, and the record it left. -/
structure Hosted (simulation : Simulation) (before : SimStage) (stream : String)
    (record : StreamRecord) (after : SimStage) : Prop where
  named : stream = Store.streamName simulation.table (before.store.created + 1)
  leads : Leads stream before after
  found : after.store.find? stream = some record

theorem Hosted.not_finalized {before after : SimStage} {record : StreamRecord}
    (hosted : Hosted simulation before stream record after)
    (unfinished : record.finalized = false) : after.store.isFinalized stream ≠ true := by
  rw [Store.isFinalized_eq hosted.found, unfinished]
  simp

/-- What a session with a plan comes to, begun in one run: its outcome, and the run at its end.
Where it was not opened or failed, a fault struck. -/
inductive Turnout (simulation : Simulation) (plan : SessionPlan) (before : Harness) :
    SessionOutcome × Harness → Prop where
  | unopened {error : String} {stage : SimStage}
      (reached : Reached environment before.stage stage)
      (still : Still SimStage.store SimStage.faults before.stage stage)
      (struck : before.stage.faults < stage.faults) :
      Turnout simulation plan before (.openFailed error, before.countSession.book 0 0 stage)
  | committed {stream : String} {record : StreamRecord} {stage : SimStage} {accepted refused : Nat}
      (meant : plan.abort = false)
      (fitting : plan.fitting simulation.session.ceiling = accepted)
      (oversized : plan.oversized simulation.session.ceiling = refused)
      (hosted : Hosted simulation before.stage stream record stage)
      (finalized : record.finalized = true)
      (stored : record.rows.size = accepted) :
      Turnout simulation plan before
        (.committed stream accepted,
          (before.countSession.book accepted refused stage).countCommitted stream accepted)
  | aborted {stream : String} {record : StreamRecord} {stage : SimStage} {accepted refused : Nat}
      (meant : plan.abort = true)
      (fitting : plan.fitting simulation.session.ceiling = accepted)
      (oversized : plan.oversized simulation.session.ceiling = refused)
      (hosted : Hosted simulation before.stage stream record stage)
      (unfinished : record.finalized = false) :
      Turnout simulation plan before
        (.aborted stream accepted, before.countSession.book accepted refused stage)
  | failed {stream error : String} {record : StreamRecord} {stage : SimStage}
      {acknowledged accepted refused : Nat}
      (hosted : Hosted simulation before.stage stream record stage)
      (unfinished : record.finalized = false)
      (acknowledged_le : acknowledged ≤ accepted)
      (struck : before.stage.faults < stage.faults) :
      Turnout simulation plan before
        (.failed stream acknowledged error, before.countSession.book accepted refused stage)

variable {plan : SessionPlan} {before : Harness} {accepted refused : Nat}

theorem Turnout.of_stopped {error : SessionError}
    (named : stream = Store.streamName simulation.table (before.store.created + 1))
    (leads : Leads stream before.stage stage)
    (stopped : Stopped simulation stream error progress
      (before.countSession.book accepted refused stage))
    (counted : progress.accepted.size = accepted)
    (struck : before.stage.faults < stage.faults) :
    Turnout simulation plan before
      ((before.countSession.book accepted refused stage).giveUp stream error progress) := by
  obtain ⟨record, found, halted, unfinished⟩ := stopped.halted
  have acknowledged_le : progress.session.committedCount ≤ accepted := by
    obtain ⟨acknowledged, sized, divided, _⟩ := halted.divided
    have sizes := congrArg List.length divided
    rw [List.length_append, Array.length_toList] at sizes
    omega
  obtain ⟨onwards, kept⟩ := abort_leads found (.failed halted)
  rw [giveUp_of_stopped stopped, book_book]
  exact .failed ⟨named, leads.trans onwards, kept⟩ unfinished acknowledged_le
    (Nat.lt_of_lt_of_le struck onwards.within.faults_le)

/-- A session that was offered all rows of its plan ends as the plan says, unless a fault stops its
commit. -/
theorem Turnout.of_running
    (named : stream = Store.streamName simulation.table (before.store.created + 1))
    (leads : Leads stream before.stage stage)
    (running : Running simulation stream progress
      (before.countSession.book accepted refused stage))
    (fitting : plan.fitting simulation.session.ceiling = accepted)
    (oversized : plan.oversized simulation.session.ceiling = refused)
    (counted : progress.accepted.size = accepted) :
    Turnout simulation plan before
      ((before.countSession.book accepted refused stage).finish stream plan.abort progress) := by
  obtain ⟨record, found, inStep⟩ := running.inStep
  cases meant : plan.abort with
  | true =>
      obtain ⟨onwards, kept⟩ := abort_leads found (.open inStep)
      rw [finish_of_abort running, book_book, counted]
      exact .aborted meant fitting oversized ⟨named, leads.trans onwards, kept⟩ inStep.unfinished
  | false =>
      have step := Session.commit_step environment progress.session stage
      obtain ⟨within, outcome⟩ := step.outcome serves running.consistent running.inStep
      have onwards := leads.trans ⟨step.kept (reached_keeps environment), within⟩
      cases called : progress.session.commit environment stage with
      | mk result rest =>
        rw [called] at step within outcome onwards
        cases result with
        | ok count =>
            obtain ⟨_, after, present, complete⟩ := outcome
            have stored : after.rows.size = accepted := by
              rw [← counted, ← Array.length_toList, complete.stored, Array.length_toList]
            rw [finish_of_commit running called, book_book, counted]
            exact .committed meant fitting oversized ⟨named, onwards, present⟩ complete.finalized
              stored
        | error error =>
            have struck : stage.faults < rest.2.faults := by
              refine Nat.lt_of_le_of_ne within.faults_le fun quiet => ?_
              obtain ⟨count, answered⟩ := step.ok_of_quiet serves steady running.consistent
                running.inStep running.around.unscripted rfl quiet.symm
              exact absurd answered (by simp)
            have stopped := Stopped.of_failure running.around within outcome
            rw [finish_of_failure (before.countSession.book accepted refused stage) called]
            rw [book_book] at stopped ⊢
            exact .of_stopped named onwards stopped counted
              (Nat.lt_of_le_of_lt leads.within.faults_le struck)

def openNext (harness : Harness) : Except SessionError Session × SimStage :=
  Session.start environment harness.simulation.table rowSchema harness.simulation.session
    (.seeded (sessionSeed harness.simulation.seed (harness.report.sessions + 1))) harness.stage

theorem runSession_of_refused {table : String} {error : RetryError}
    (refused : harness.openNext = (.error (.streamCreation table error), stage)) :
    harness.runSession plan =
      (.openFailed (SessionError.streamCreation table error).text,
        harness.countSession.book 0 0 stage) := by
  rw [openNext] at refused
  simp only [runSession, refused]
  rfl

theorem runSession_of_opened {session : Session}
    (opened : harness.openNext = (.ok session, stage)) :
    harness.runSession plan =
      match offerRows session.streamText plan.rowSizes 0 ⟨session, #[]⟩
        (harness.countSession.book 0 0 stage) with
      | (some error, progress, harness) => harness.giveUp session.streamText error progress
      | (none, progress, harness) => harness.finish session.streamText plan.abort progress := by
  rw [openNext] at opened
  simp only [runSession, opened]
  rfl

/-- All that a session of a harness can come to. -/
theorem runSession_turnout (valid : simulation.session.validate = .ok ()) (plan : SessionPlan)
    (clean : Clean simulation before) :
    Turnout simulation plan before (before.runSession plan) := by
  have step := Session.start_step environment before.simulation.table rowSchema
    before.simulation.session
    (.seeded (sessionSeed before.simulation.seed (before.report.sessions + 1))) before.stage
  have reached := step.kept (reached_keeps environment)
  have outcome := step.outcome serves
  cases opened : before.openNext with
  | mk result stage =>
    rw [openNext] at opened
    rw [opened, clean.settings] at step
    rw [opened] at reached outcome
    cases result with
    | error error =>
        rw [clean.settings] at outcome
        obtain ⟨still, cause, refused⟩ := outcome valid clean.unscripted
        have struck : before.stage.faults < stage.faults := by
          refine Nat.lt_of_le_of_ne still.faults_le fun quiet => ?_
          obtain ⟨session, answered⟩ :=
            step.ok_of_quiet serves valid clean.unscripted rfl quiet.symm
          exact absurd answered (by simp)
        rw [refused] at opened
        rw [runSession_of_refused opened]
        exact .unopened reached still struck
    | ok session =>
        obtain ⟨within, inStep, consistent⟩ := outcome
        have named := (step.name serves rfl).1
        have leads : Leads session.streamText before.stage stage := ⟨reached, within⟩
        have running : Running simulation session.streamText ⟨session, #[]⟩
            (before.countSession.book 0 0 stage) :=
          ⟨(clean.counted.during _).booked 0 0 within, consistent, inStep⟩
        have configured : session.config = simulation.session := by
          obtain ⟨_, _, _, fresh⟩ := step.session_eq rfl
          rw [fresh]
          rfl
        have offered := offerRows_offered plan.rowSizes 0 running configured
        rw [runSession_of_opened opened]
        generalize offerRows session.streamText plan.rowSizes 0 ⟨session, #[]⟩
          (before.countSession.book 0 0 stage) = ended at offered ⊢
        cases offered with
        | all fitting oversized running onwards counted =>
            simp only
            rw [book_book] at running ⊢
            refine .of_running named (leads.trans onwards) running ?_ ?_ counted
            · rw [Nat.zero_add]; exact fitting
            · rw [Nat.zero_add]; exact oversized
        | stopped stopped onwards struck counted =>
            simp only
            rw [book_book] at stopped ⊢
            exact .of_stopped named (leads.trans onwards) stopped counted
              (Nat.lt_of_le_of_lt within.faults_le struck)

/-! ### Sessions one after the other -/

/-- Nothing that a session can come to leaves a violation behind. -/
theorem Turnout.clean {plan : SessionPlan} {ended : SessionOutcome × Harness}
    (turnout : Turnout simulation plan harness ended) (clean : Clean simulation harness) :
    Clean simulation ended.2 := by
  have counted := clean.counted
  cases turnout with
  | unopened reached still struck => exact counted.moved still
  | @committed stream record stage accepted refused meant fitting oversized hosted finalized
      stored =>
      have booked := (counted.during stream).booked accepted refused hosted.leads.within
      refine ⟨booked.settings, booked.unscripted, ?_, booked.unviolated⟩
      intro other finalized
      by_cases same : other = stream
      · exact List.mem_cons.mpr (Or.inl same)
      · exact List.mem_cons_of_mem stream (booked.listed other same finalized)
  | aborted meant fitting oversized hosted unfinished =>
      exact ((counted.during _).booked _ _ hosted.leads.within).settled fun finalized =>
        absurd finalized (hosted.not_finalized unfinished)
  | failed hosted unfinished acknowledged_le struck =>
      exact ((counted.during _).booked _ _ hosted.leads.within).settled fun finalized =>
        absurd finalized (hosted.not_finalized unfinished)

theorem countOutcome_clean (outcome : SessionOutcome) (clean : Clean simulation harness) :
    Clean simulation (harness.countOutcome outcome) := by
  refine ⟨clean.settings, clean.unscripted, clean.listed, ?_⟩
  cases outcome with
  | committed stream rows => exact clean.unviolated
  | aborted stream rowsAdded => exact clean.unviolated
  | openFailed error => exact clean.unviolated
  | failed stream acknowledgedRows error => exact clean.unviolated

theorem Turnout.workload_eq {ended : SessionOutcome × Harness}
    (turnout : Turnout simulation plan harness ended) : ended.2.workload = harness.workload := by
  cases turnout <;> rfl

/-- Sessions with these plans lead from one run to the other. -/
inductive Ran (simulation : Simulation) : List SessionPlan → Harness → Harness → Prop where
  | none {harness : Harness} : Ran simulation [] harness harness
  | next {plan : SessionPlan} {plans : List SessionPlan} {later : Workload}
      {before after : Harness} {ended : SessionOutcome × Harness}
      (turnout : Turnout simulation plan { before with workload := later } ended)
      (rest : Ran simulation plans (ended.2.countOutcome ended.1) after) :
      Ran simulation (plan :: plans) before after

theorem Ran.clean {plans : List SessionPlan} {after : Harness}
    (ran : Ran simulation plans harness after) (clean : Clean simulation harness) :
    Clean simulation after := by
  induction ran with
  | none => exact clean
  | next turnout rest inductionHypothesis =>
      have planned := turnout.clean
        ⟨clean.settings, clean.unscripted, clean.listed, clean.unviolated⟩
      exact inductionHypothesis (countOutcome_clean _ planned)

/-- The induction is on the number of sessions; each leaves the run clean for the next. -/
theorem run_ran (valid : simulation.session.validate = .ok ()) (sessions : Nat)
    (clean : Clean simulation harness) :
    Ran simulation (harness.workload.take sessions) harness (harness.run sessions) := by
  induction sessions generalizing harness with
  | zero => exact .none
  | succ sessions inductionHypothesis =>
      let ended := { harness with workload := harness.workload.next.2 }.runSession
        harness.workload.next.1
      have planned : Clean simulation { harness with workload := harness.workload.next.2 } :=
        ⟨clean.settings, clean.unscripted, clean.listed, clean.unviolated⟩
      have turnout : Turnout simulation harness.workload.next.1
          { harness with workload := harness.workload.next.2 } ended :=
        runSession_turnout valid harness.workload.next.1 planned
      have onwards : (ended.2.countOutcome ended.1).workload = harness.workload.next.2 :=
        turnout.workload_eq
      have ran := inductionHypothesis (countOutcome_clean ended.1 (turnout.clean planned))
      rw [onwards] at ran
      exact .next turnout ran

end Harness

end RowStream
