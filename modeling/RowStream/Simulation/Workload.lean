import RowStream.Client.Faulty
import RowStream.Config
import RowStream.Random.ChaCha

/-!
Contract: what simulated producers set out to do.

Owns:
- `Simulation`, the settings of a run, with its presets;
- `SessionPlan`, the rows one session offers and how it means to end;
- `Workload`, the plans of a run one after the other.

Main statement: `Workload.drawSizes_length`, a plan has as many rows as were drawn for it.
-/

namespace RowStream

/-- The settings of a simulated run. -/
structure Simulation where
  seed : UInt64 := 0
  rates : FaultRates := FaultRates.standard
  /-- Settings of every session; a low ceiling makes flushes frequent. -/
  session : Config
  table : String
  maxRows : UInt64
  maxRowBytes : UInt64
  /-- How likely a row is to exceed the ceiling. -/
  oversizedProbability : Float
  /-- How likely a session is to give up at its end. -/
  abortProbability : Float

namespace Simulation

/-- Default fault rates. -/
def moderate (seed : UInt64) : Simulation where
  seed := seed
  session :=
    { Config.withCeiling 256 with
      retry := { RetryPolicy.brief with maxAttempts := 6, jittered := true } }
  table := "projects/dst/datasets/sim/tables/events"
  maxRows := 40
  maxRowBytes := 64
  oversizedProbability := 0.01
  abortProbability := 0.1

/-- No faults. -/
def calm (seed : UInt64) : Simulation :=
  { moderate seed with rates := FaultRates.none }

/-- Frequent faults, oversized rows and aborts. -/
def chaos (seed : UInt64) : Simulation :=
  { moderate seed with
    rates := FaultRates.chaos
    oversizedProbability := 0.03
    abortProbability := 0.15 }

end Simulation

/-- What one session sets out to do. -/
structure SessionPlan where
  rowSizes : List Nat
  abort : Bool
deriving DecidableEq, Repr

/-- The plans of a run, of which some have been drawn. -/
structure Workload where
  simulation : Simulation
  random : Random

namespace Workload

/-- How far above the ceiling an oversized row reaches at most. -/
def oversizeSpread : UInt64 := 32

def ofSimulation (simulation : Simulation) : Workload :=
  ⟨simulation, .seeded simulation.seed⟩

/-- The size of one row: now and then just above the ceiling, else anything allowed. -/
def drawSize (simulation : Simulation) (random : Random) : Nat × Random :=
  let (oversized, random) := random.chance simulation.oversizedProbability
  if oversized then
    let (excess, random) := random.range 0 oversizeSpread
    (simulation.session.ceiling + 1 + excess.toNat, random)
  else
    let (size, random) := random.range 1 (simulation.maxRowBytes + 1)
    (size.toNat, random)

/-- The sizes of a number of rows, one after the other. -/
def drawSizes (simulation : Simulation) : (count : Nat) → Random → List Nat × Random
  | 0, random => ([], random)
  | count + 1, random =>
      let (size, random) := drawSize simulation random
      let (sizes, random) := drawSizes simulation count random
      (size :: sizes, random)

/-- The plan of the next session. -/
def next (workload : Workload) : SessionPlan × Workload :=
  let simulation := workload.simulation
  let (rows, random) := workload.random.range 0 (simulation.maxRows + 1)
  let (sizes, random) := drawSizes simulation rows.toNat random
  let (abort, random) := random.chance simulation.abortProbability
  (⟨sizes, abort⟩, { workload with random := random })

/-- The plans of the next sessions. -/
def take : (count : Nat) → Workload → List SessionPlan
  | 0, _ => []
  | count + 1, workload =>
      let (plan, workload) := workload.next
      plan :: take count workload

theorem drawSizes_length (simulation : Simulation) (count : Nat) (random : Random) :
    (drawSizes simulation count random).1.length = count := by
  induction count generalizing random with
  | zero => rfl
  | succ count inductionHypothesis => simp [drawSizes, inductionHypothesis]

theorem length_take (count : Nat) (workload : Workload) :
    (take count workload).length = count := by
  induction count generalizing workload with
  | zero => rfl
  | succ count inductionHypothesis => simp [take, inductionHypothesis]

end Workload

end RowStream
