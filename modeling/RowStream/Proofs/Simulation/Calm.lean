import Mathlib.Data.List.Forall2
import RowStream.Proofs.Client.Conversation
import RowStream.Proofs.Simulation.Tallies

/-!
Contract: a simulated run without faults loses nothing.

Owns:
- `Simulation.Faultless`, settings under which no fault can strike;
- `SessionPlan.Fulfilled`, a session that did what it set out to do;
- `Smooth`, sessions that all did, with the rows counted for them;
- `Lossless`, what the report of such a run says.

Main statement: `Harness.calm_loses_nothing`. What the sessions come to is counted from their plans
alone; they share one service and one injector of faults.
-/

namespace RowStream

/-- Settings under which every session can be opened and no fault has a positive probability. -/
structure Simulation.Faultless (simulation : Simulation) : Prop where
  valid : simulation.session.validate = .ok ()
  never : ∀ point, simulation.rates.rate point ≤ 0.0

theorem Simulation.faultless_calm (seed : UInt64) : (Simulation.calm seed).Faultless where
  valid := by
    rw [show (Simulation.calm seed).session = (Simulation.calm 0).session from rfl]
    rfl
  never point := by
    have off : (Simulation.calm seed).rates.rate point = 0.0 :=
      @FaultTable.probability_of_disabled .disabled rfl point.id
    rw [off]
    decide +kernel

/-- A session with this plan ended as the plan says, with every row that fits into a request. -/
def SessionPlan.Fulfilled (ceiling : Nat) (plan : SessionPlan) (outcome : SessionOutcome) : Prop :=
  ∃ stream, outcome =
    if plan.abort then .aborted stream (plan.fitting ceiling)
    else .committed stream (plan.fitting ceiling)

namespace Harness

open SessionOutcome (count total)

variable {simulation : Simulation} {plan : SessionPlan} {plans : List SessionPlan}
  {harness : Harness} {before after : SimStage}

/-! ### No fault strikes -/

/-- Behind an idle injector no request of a session disturbs it. -/
theorem undisturbed_keeps : Keeps environment fun before after =>
    before.backend.1.Idle → before.backend.1.Undisturbed after.backend.1 := by
  have undisturbed (act : Store.Act) (stage : SimStage) (idle : stage.backend.1.Idle) :
      stage.backend.1.Undisturbed
        (Store.client.withFaults.respond (Client.planBehind Store.plan) stage.backend act).2.1 := by
    obtain ⟨later, responded, quiet⟩ :=
      Store.client.respond_withFaults Store.plan idle stage.backend.2 act
    rw [responded]
    exact quiet
  exact
    { refl := fun stage _ => .refl stage.backend.1
      trans := fun early late idle => (early idle).trans (late ((early idle).idle idle))
      report := fun _ stage _ => .refl stage.backend.1
      sleep := fun _ stage _ => .refl stage.backend.1
      create := fun parent kind => undisturbed (.create parent kind)
      bind := fun stream schema => undisturbed (.bind stream schema)
      append := fun appender batch offset => undisturbed (.append appender batch offset)
      close := fun appender => undisturbed (.close appender)
      finalize := fun stream => undisturbed (.finalize stream) }

theorem reached_undisturbed (reached : Reached environment before after)
    (idle : before.backend.1.Idle) : before.backend.1.Undisturbed after.backend.1 :=
  reached _ undisturbed_keeps idle

/-- Behind an idle injector none of the endings is left that need a fault. -/
theorem not_struck (reached : Reached environment before after) (idle : before.backend.1.Idle) :
    ¬before.faults < after.faults :=
  Nat.not_lt.mpr (Nat.le_of_eq (reached_undisturbed reached idle).totalFaults_eq)

/-! ### Sessions that do what they set out to do -/

/-- Between two moments of a run sessions with these plans were fulfilled with these outcomes, and
their rows were counted. -/
structure Smooth (simulation : Simulation) (plans : List SessionPlan) (before : Harness)
    (outcomes : List SessionOutcome) (after : Harness) : Prop where
  undisturbed : before.injector.Undisturbed after.injector
  listed : after.report.outcomes = before.report.outcomes ++ outcomes
  fulfilled : List.Forall₂ (SessionPlan.Fulfilled simulation.session.ceiling) plans outcomes
  added : after.report.rowsAdded =
    before.report.rowsAdded + (plans.map (SessionPlan.fitting simulation.session.ceiling)).sum
  refused : after.report.oversizedRejections =
    before.report.oversizedRejections +
      (plans.map (SessionPlan.oversized simulation.session.ceiling)).sum

/-- One session that was fulfilled. -/
theorem Smooth.one {outcome : SessionOutcome} {ended : Harness}
    (undisturbed : harness.injector.Undisturbed ended.injector)
    (listed : ended.report.outcomes = harness.report.outcomes ++ [outcome])
    (fulfilled : plan.Fulfilled simulation.session.ceiling outcome)
    (added : ended.report.rowsAdded =
      harness.report.rowsAdded + plan.fitting simulation.session.ceiling)
    (refused : ended.report.oversizedRejections =
      harness.report.oversizedRejections + plan.oversized simulation.session.ceiling) :
    Smooth simulation [plan] harness [outcome] ended where
  undisturbed := undisturbed
  listed := listed
  fulfilled := .cons fulfilled .nil
  added := by rw [added, List.map_singleton, List.sum_singleton]
  refused := by rw [refused, List.map_singleton, List.sum_singleton]

theorem Smooth.next {first second third : Harness} {outcome : SessionOutcome}
    {outcomes : List SessionOutcome} (early : Smooth simulation [plan] first [outcome] second)
    (late : Smooth simulation plans second outcomes third) :
    Smooth simulation (plan :: plans) first (outcome :: outcomes) third where
  undisturbed := early.undisturbed.trans late.undisturbed
  listed := by
    rw [late.listed, early.listed, List.append_assoc]
    rfl
  fulfilled := .cons (List.forall₂_cons.mp early.fulfilled).1 late.fulfilled
  added := by
    rw [late.added, early.added, List.map_cons, List.sum_cons, Nat.add_assoc]
    rfl
  refused := by
    rw [late.refused, early.refused, List.map_cons, List.sum_cons, Nat.add_assoc]
    rfl

/-- Without faults a session does what was planned, whichever way it was to end. -/
theorem Turnout.smooth {ended : SessionOutcome × Harness}
    (turnout : Turnout simulation plan harness ended) (idle : harness.injector.Idle) :
    Smooth simulation [plan] harness [ended.1] (ended.2.countOutcome ended.1) := by
  cases turnout with
  | unopened reached still struck => exact absurd struck (not_struck reached idle)
  | @committed stream _ _ _ _ meant fitting oversized hosted finalized stored =>
      have fulfilled : plan.Fulfilled simulation.session.ceiling
          (.committed stream (plan.fitting simulation.session.ceiling)) :=
        ⟨stream, by rw [meant]; rfl⟩
      subst fitting oversized
      exact .one (reached_undisturbed hosted.leads.reached idle) rfl fulfilled rfl rfl
  | @aborted stream _ _ _ _ meant fitting oversized hosted unfinished =>
      have fulfilled : plan.Fulfilled simulation.session.ceiling
          (.aborted stream (plan.fitting simulation.session.ceiling)) :=
        ⟨stream, by rw [meant]; rfl⟩
      subst fitting oversized
      exact .one (reached_undisturbed hosted.leads.reached idle) rfl fulfilled rfl rfl
  | failed hosted unfinished acknowledged_le struck =>
      exact absurd struck (not_struck hosted.leads.reached idle)

/-- The induction is on the sessions; each leaves the injector idle for the next. -/
theorem Ran.smooth {after : Harness} (ran : Ran simulation plans harness after)
    (idle : harness.injector.Idle) : ∃ outcomes, Smooth simulation plans harness outcomes after := by
  induction ran with
  | none => exact ⟨[], .refl _, (List.append_nil _).symm, .nil, rfl, rfl⟩
  | next turnout rest inductionHypothesis =>
      have early := turnout.smooth idle
      obtain ⟨outcomes, late⟩ := inductionHypothesis (early.undisturbed.idle idle)
      refine ⟨_, Smooth.next ⟨early.undisturbed, early.listed, early.fulfilled, early.added,
        early.refused⟩ late⟩

/-! ### A whole run -/

theorem fulfilled_counts {ceiling : Nat} {outcomes : List SessionOutcome}
    (fulfilled : List.Forall₂ (SessionPlan.Fulfilled ceiling) plans outcomes) :
    count .failed outcomes = 0 ∧ count .unopened outcomes = 0 ∧
      total .committed outcomes + total .aborted outcomes =
        (plans.map (SessionPlan.fitting ceiling)).sum := by
  induction fulfilled with
  | nil => exact ⟨rfl, rfl, rfl⟩
  | @cons plan outcome plans outcomes kept rest inductionHypothesis =>
      obtain ⟨unfailed, opened, rows⟩ := inductionHypothesis
      obtain ⟨stream, ended⟩ := kept
      rw [show outcome :: outcomes = [outcome] ++ outcomes from rfl]
      simp only [SessionOutcome.count_append, SessionOutcome.count_singleton,
        SessionOutcome.total_append, SessionOutcome.total_singleton, unfailed, opened, ended,
        List.map_cons, List.sum_cons]
      cases plan.abort <;> simp [SessionOutcome.ending, SessionOutcome.rows] <;> omega

/-- What the report of a run says in which no session lost anything. -/
structure Lossless (simulation : Simulation) (sessions : Nat) (report : SimReport) : Prop where
  unfailed : report.failed = 0
  opened : report.openFailures = 0
  unstruck : report.counters.totalFaults = 0
  ended : report.committed + report.aborted = sessions
  fulfilled : List.Forall₂ (SessionPlan.Fulfilled simulation.session.ceiling)
    ((Workload.ofSimulation simulation).take sessions) report.outcomes
  refused : report.oversizedRejections =
    (((Workload.ofSimulation simulation).take sessions).map
      (SessionPlan.oversized simulation.session.ceiling)).sum
  added : report.rowsCommitted + total .aborted report.outcomes = report.rowsAdded

theorem Smooth.lossless {switch : FaultSwitch} {sessions : Nat} {outcomes : List SessionOutcome}
    (smooth : Smooth simulation ((Workload.ofSimulation simulation).take sessions)
      (create simulation switch) outcomes harness)
    (balanced : Balanced sessions harness.report harness.store)
    (clean : Clean simulation harness) : Lossless simulation sessions harness.check.report := by
  have listed : harness.report.outcomes = outcomes := smooth.listed
  obtain ⟨unfailed, opened, rows⟩ := fulfilled_counts smooth.fulfilled
  have failures : harness.report.failed = 0 := by
    rw [← unfailed, ← listed]
    exact balanced.tallied .failed
  have openFailures : harness.report.openFailures = 0 := by
    rw [← opened, ← listed]
    exact balanced.tallied .unopened
  have endings := balanced.endings
  have added := smooth.added.trans (Nat.zero_add _)
  rw [check_of_clean clean]
  exact
    { unfailed := failures
      opened := openFailures
      unstruck := smooth.undisturbed.totalFaults_eq
      ended := by
        simp only
        omega
      fulfilled := by
        rw [listed]
        exact smooth.fulfilled
      refused := smooth.refused.trans (Nat.zero_add _)
      added := by
        rw [added, ← rows, balanced.committed, listed] }

/-- Without faults, whether by the calm settings or by any that are valid: every session is opened
and ends as its plan says, no fault is counted, and every row that was added is committed or was
given up on purpose. -/
theorem calm_loses_nothing (simulation : Simulation) (switch : FaultSwitch) (sessions : Nat)
    (calm : (∃ seed, simulation = .calm seed) ∨ simulation.Faultless) :
    Lossless simulation sessions
      ((create simulation switch).run sessions).check.report := by
  have faultless : simulation.Faultless := by
    rcases calm with ⟨seed, rfl⟩ | faultless
    · exact Simulation.faultless_calm seed
    · exact faultless
  have valid := faultless.valid
  have created := create_clean simulation switch
  have idle : (create simulation switch).injector.Idle := Or.inr faultless.never
  obtain ⟨outcomes, smooth⟩ := (run_ran valid sessions created).smooth idle
  have balanced := (run_tallied switch sessions valid).balanced (run_sessions switch sessions valid)
  exact smooth.lossless balanced (run_clean valid sessions created)

/-- The calm settings with a seed of their own, over fifty sessions. -/
theorem calm_loses_nothing_of_seed :
    (∃ seed, Simulation.calm 7 = .calm seed) ∧
      Lossless (.calm 7) 50 ((create (.calm 7) {}).run 50).check.report :=
  ⟨⟨7, rfl⟩, calm_loses_nothing (.calm 7) {} 50 (Or.inl ⟨7, rfl⟩)⟩

end Harness

end RowStream
