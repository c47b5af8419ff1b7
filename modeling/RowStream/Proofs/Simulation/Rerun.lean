import RowStream.Simulation.Harness

/-!
Contract: what one run of a batch reports depends on its seed alone.

Owns:
- `Harness.create_congr`, a new run looks the same whatever the switch went through before;
- `Harness.batch_reports`, a batch of runs as one run for each of its seeds;
- the switch that a batch leaves behind.

Main statement: `Harness.rerun_alone`, a run of a batch can be repeated as a batch of one,
with any switch.

The runs of a batch share one switch, each taking it over as the one before left it. A run
begins by setting back both parts of it, the table and the tally.
-/

namespace RowStream.Harness

/-- Nothing in a new run remembers the switch it was given. -/
theorem create_congr (simulation : Simulation) (switch other : FaultSwitch) :
    create simulation switch = create simulation other := rfl

/-- A run begins with a switch of its own, and sees nothing of the one before it. -/
theorem complete_congr (simulation : Simulation) (sessions : Nat) (switch other : FaultSwitch) :
    complete simulation sessions switch = complete simulation sessions other := by
  unfold complete
  rw [create_congr simulation switch other]

def seedAt (first : UInt64) (index : Nat) : UInt64 := first + UInt64.ofNat index

theorem seedAt_zero (first : UInt64) : seedAt first 0 = first := UInt64.add_zero first

theorem seedAt_succ (first : UInt64) (index : Nat) :
    seedAt first (index + 1) = seedAt (first + 1) index := by
  unfold seedAt
  rw [Nat.add_comm, UInt64.ofNat_add, UInt64.add_assoc]
  rfl

/-- As long as the seeds of a batch can be counted, they are the numbers from the first on. -/
theorem toNat_seedAt {first : UInt64} {index : Nat}
    (countable : first.toNat + index < UInt64.size) :
    (seedAt first index).toNat = first.toNat + index := by
  unfold seedAt
  rw [UInt64.toNat_add, UInt64.toNat_ofNat_of_lt' (by omega)]
  exact Nat.mod_eq_of_lt countable

/-- The runs of a batch, each told by its own seed. The induction is on the number of runs;
the switch that the later ones start with is whatever the first one left. -/
theorem batch_reports (simulationOf : UInt64 → Simulation) (sessions count : Nat)
    (seed : UInt64) (switch other : FaultSwitch) :
    (batch simulationOf sessions count seed switch).1 =
      (List.range count).map fun index =>
        (complete (simulationOf (seedAt seed index)) sessions other).1 := by
  induction count generalizing seed switch with
  | zero => rfl
  | succ count inductionHypothesis =>
      have later := inductionHypothesis (seed + 1)
        (complete (simulationOf seed) sessions switch).2
      rw [batch, List.range_succ_eq_map, List.map_cons, List.map_map, seedAt_zero,
        complete_congr (simulationOf seed) sessions other switch]
      simp only
      rw [later]
      congr 2
      funext index
      rw [Function.comp_apply, seedAt_succ]

/-- A batch leaves the switch as its last run does; the switch it began with is forgotten. -/
theorem batch_switch (simulationOf : UInt64 → Simulation) (sessions count : Nat)
    (seed : UInt64) (switch other : FaultSwitch) :
    (batch simulationOf sessions (count + 1) seed switch).2 =
      (complete (simulationOf (seedAt seed count)) sessions other).2 := by
  induction count generalizing seed switch with
  | zero =>
      rw [seedAt_zero, complete_congr _ sessions other switch]
      rfl
  | succ count inductionHypothesis =>
      rw [batch, seedAt_succ]
      exact inductionHypothesis (seed + 1) _

/-- A run of a batch, repeated alone with its seed, ends with the same report and the same
events, whatever table and tally the switch had before the batch and before the repetition. -/
theorem rerun_alone (simulationOf : UInt64 → Simulation) {sessions count index : Nat}
    {seed : UInt64} (switch other : FaultSwitch) (member : index < count) :
    ∃ finished : Finished,
      (batch simulationOf sessions count seed switch).1[index]? = some finished ∧
        (batch simulationOf sessions 1 (seedAt seed index) other).1 = [finished] := by
  refine ⟨(complete (simulationOf (seedAt seed index)) sessions other).1, ?_, rfl⟩
  rw [batch_reports simulationOf sessions count seed switch other, List.getElem?_map,
    List.getElem?_range member, Option.map_some]

/-- The second of two chaotic runs, repeated with a switch that was turned off. -/
theorem rerun_alone_chaos : 1 < 2 ∧ ∃ finished : Finished,
    (batch Simulation.chaos 3 2 41 {}).1[1]? = some finished ∧
      (batch Simulation.chaos 3 1 (seedAt 41 1) { table := .disabled }).1 = [finished] :=
  have member : 1 < 2 := by decide
  ⟨member, rerun_alone Simulation.chaos {} { table := .disabled } member⟩

end RowStream.Harness
