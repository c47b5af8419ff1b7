import RowStream.Proofs.Simulation.Turnout

/-!
Contract: a simulated run finds no promise broken, whatever faults strike.

Owns: the proof that a whole run stays `Clean`, and `check_of_clean`, what the final check then
makes of it.

Main statement: `Harness.violations_eq_nil`. Rates, generators, plans and the number of
sessions are arbitrary; only the configuration has to be free of flaws.
-/

namespace RowStream

namespace Harness

variable {simulation : Simulation} {harness : Harness}

theorem create_clean (simulation : Simulation) (switch : FaultSwitch) :
    Clean simulation (create simulation switch) where
  settings := rfl
  unscripted := rfl
  listed := by
    intro stream finalized
    exact absurd finalized (by simp [create, store, Store.isFinalized, Store.find?])
  unviolated := rfl

/-- A run of any number of sessions finds nothing broken. -/
theorem run_clean (valid : simulation.session.validate = .ok ()) (sessions : Nat)
    (clean : Clean simulation harness) : Clean simulation (harness.run sessions) :=
  (run_ran valid sessions clean).clean clean

/-- The final check of a run in which every finalized stream was committed reports nothing more. -/
theorem check_of_clean (clean : Clean simulation harness) :
    harness.check =
      { harness with
        report :=
          { harness.report with
            counters := harness.injector.counters
            faultSummary := harness.injector.switch.tally.summary } } := by
  have unmoved (streams : List String) :
      streams.foldl
        (fun harness stream =>
          harness.violateIf
            (harness.store.isFinalized stream && !harness.committedStreams.contains stream)
            (.strayFinalization stream))
        harness = harness := by
    induction streams with
    | nil => rfl
    | cons stream rest inductionHypothesis =>
        have listed :
            (harness.store.isFinalized stream && !harness.committedStreams.contains stream) =
              false := by
          cases finalized : harness.store.isFinalized stream with
          | false => rfl
          | true => simp [clean.listed stream finalized]
        rw [List.foldl_cons, violateIf_of_not _ listed]
        exact inductionHypothesis
  simp only [check, unmoved]

theorem check_violations (clean : Clean simulation harness) :
    harness.check.report.violations = [] := by
  rw [check_of_clean clean]
  exact clean.unviolated

/-- Whatever the seed, the rates, the plans, the number of sessions and the switch: a run
whose configuration has no flaw reports no promise broken. -/
theorem violations_eq_nil (simulation : Simulation) (switch : FaultSwitch) (sessions : Nat)
    (valid : simulation.session.validate = .ok ()) :
    ((create simulation switch).run sessions).check.report.violations = [] :=
  check_violations (run_clean valid sessions (create_clean simulation switch))

/-- Frequent faults, oversized rows and aborts over fifty sessions. -/
theorem violations_chaos_eq_nil :
    (Simulation.chaos 7).session.validate = .ok () ∧
      ((create (.chaos 7) {}).run 50).check.report.violations = [] :=
  ⟨rfl, violations_eq_nil (.chaos 7) {} 50 rfl⟩

end Harness

end RowStream
