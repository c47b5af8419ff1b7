import Mathlib.Data.List.Forall2
import RowStream.Proofs.Session.Failure
import RowStream.Simulation.Workload

/-!
Contract: plans stay within the bounds of their settings.

Owns:
- `Workload.takeOversized`, which rows of the plans are drawn as oversized ones;
- `Simulation.Drawn`, the sizes that such a row can have, and any other row;
- `SessionPlan.Bounded`, what holds of a plan, given how its rows are drawn.

Main statement: `Workload.plans_bounded`, for every sequence of random words. A bounded draw
asks for a half-open interval, whose end is one beyond the last value and can leave a word; the
interval is empty then, and its start is drawn, `Random.range_succ_mem`.
-/

namespace RowStream

/-- Up to and including a last value, which may be the last word. -/
theorem Random.range_succ_mem {low last : UInt64} (ordered : low ≤ last) (random : Random) :
    low ≤ (random.range low (last + 1)).1 ∧ (random.range low (last + 1)).1 ≤ last := by
  rcases UInt64.le_or_lt (last + 1) low with empty | nonempty
  · rw [Random.range_of_le empty]
    exact ⟨UInt64.le_refl low, ordered⟩
  · obtain ⟨above, below⟩ := Random.range_mem nonempty random
    have next : (last + 1).toNat ≤ last.toNat + 1 := by
      rw [UInt64.toNat_add, UInt64.toNat_one]
      exact Nat.mod_le _ _
    rw [UInt64.lt_iff_toNat_lt] at below
    exact ⟨above, UInt64.le_iff_toNat_le.mpr (by omega)⟩

/-- The sizes of a row that is drawn as an oversized one, or as any other. -/
def Simulation.Drawn (simulation : Simulation) (size : Nat) (oversized : Bool) : Prop :=
  if oversized then
    simulation.session.ceiling + 1 ≤ size ∧ size ≤ simulation.session.ceiling + 32
  else
    1 ≤ size ∧ size ≤ simulation.maxRowBytes.toNat

/-- An open session with these settings refuses a row of this size as too large just if it is
drawn as an oversized one, whatever the session has buffered and whoever serves it. -/
def Simulation.Judged (simulation : Simulation) (size : Nat) (oversized : Bool) : Prop :=
  ∀ (σ : Type) (environment : Environment σ) (session : Session) (row : Row) (state : σ),
    session.phase = .open → session.config = simulation.session → row.size = size →
      ((∃ offered limit, (session.add environment row state).1 =
          .error (.rowTooLarge offered limit)) ↔ oversized = true)

/-- A plan within the bounds of its settings, given which of its rows are drawn as oversized
ones. -/
structure SessionPlan.Bounded (simulation : Simulation) (plan : SessionPlan)
    (oversized : List Bool) : Prop where
  rows_le : plan.rowSizes.length ≤ simulation.maxRows.toNat
  drawn : List.Forall₂ simulation.Drawn plan.rowSizes oversized
  judged : simulation.maxRowBytes.toNat ≤ simulation.session.ceiling →
    List.Forall₂ simulation.Judged plan.rowSizes oversized

/-- Sizes that do not reach the ceiling unless they are meant to are judged as they are drawn. -/
theorem Simulation.Drawn.judged {simulation : Simulation} {size : Nat} {oversized : Bool}
    (drawn : simulation.Drawn size oversized)
    (small : simulation.maxRowBytes.toNat ≤ simulation.session.ceiling) :
    simulation.Judged size oversized := by
  intro σ environment session row state isOpen settings sized
  rw [(Session.add_step environment row session state).tooLarge_iff isOpen, Session.ceiling,
    settings, sized]
  cases oversized with
  | true =>
      have above : simulation.session.ceiling + 1 ≤ size := drawn.1
      exact ⟨fun _ => rfl, fun _ => above⟩
  | false =>
      have below : size ≤ simulation.maxRowBytes.toNat := drawn.2
      refine ⟨fun large => ?_, fun no => absurd no Bool.false_ne_true⟩
      omega

namespace Workload

variable {simulation : Simulation}

def drawsOversized (simulation : Simulation) (random : Random) : Bool :=
  (random.chance simulation.oversizedProbability).1

/-- The same for a number of rows, one after the other. -/
def oversizedDraws (simulation : Simulation) : (count : Nat) → Random → List Bool
  | 0, _ => []
  | count + 1, random =>
      drawsOversized simulation random ::
        oversizedDraws simulation count (drawSize simulation random).2

def nextOversized (workload : Workload) : List Bool :=
  let (rows, random) := workload.random.range 0 (workload.simulation.maxRows + 1)
  oversizedDraws workload.simulation rows.toNat random

def takeOversized : (count : Nat) → Workload → List (List Bool)
  | 0, _ => []
  | count + 1, workload => workload.nextOversized :: takeOversized count workload.next.2

/-- A size is drawn within the bounds, unless it is drawn to be too large. -/
theorem drawn_drawSize (someBytes : 1 ≤ simulation.maxRowBytes) (random : Random) :
    simulation.Drawn (drawSize simulation random).1 (drawsOversized simulation random) := by
  unfold drawSize drawsOversized
  obtain ⟨oversized, rest⟩ := random.chance simulation.oversizedProbability
  cases oversized with
  | true =>
      obtain ⟨_, below⟩ := Random.range_mem (show (0 : UInt64) < oversizeSpread by decide) rest
      have bounded : (rest.range 0 oversizeSpread).1.toNat < 32 := below
      show _ + 1 ≤ _ + 1 + (rest.range 0 oversizeSpread).1.toNat ∧ _
      constructor
      · omega
      · show _ + 1 + (rest.range 0 oversizeSpread).1.toNat ≤ _ + 32
        omega
  | false => exact Random.range_succ_mem someBytes rest

/-- The induction is on the number of rows; the words of one are past when the next is drawn. -/
theorem drawn_drawSizes (someBytes : 1 ≤ simulation.maxRowBytes) (count : Nat)
    (random : Random) :
    List.Forall₂ simulation.Drawn (drawSizes simulation count random).1
      (oversizedDraws simulation count random) := by
  induction count generalizing random with
  | zero => exact .nil
  | succ count inductionHypothesis =>
      exact .cons (drawn_drawSize someBytes random) (inductionHypothesis _)

theorem bounded_next (workload : Workload) (someBytes : 1 ≤ workload.simulation.maxRowBytes) :
    workload.next.1.Bounded workload.simulation workload.nextOversized := by
  have drawn := drawn_drawSizes someBytes
    (workload.random.range 0 (workload.simulation.maxRows + 1)).1.toNat
    (workload.random.range 0 (workload.simulation.maxRows + 1)).2
  have rows := Random.range_succ_mem (show 0 ≤ workload.simulation.maxRows from UInt64.zero_le)
    workload.random
  exact
    { rows_le := (drawSizes_length _ _ _).symm ▸ rows.2
      drawn := drawn
      judged := fun small => drawn.imp fun _ _ single => single.judged small }

/-- With rows of at least one byte, for any random words, any probabilities and any number of
plans: no plan has more rows than it may have; an oversized row exceeds the ceiling by 1 to 32
bytes, and every other row has from one byte to the most it may have. If that is within the
ceiling, then a session refuses just the oversized rows. -/
theorem plans_bounded (simulation : Simulation) (random : Random) (count : Nat)
    (someBytes : 1 ≤ simulation.maxRowBytes) :
    List.Forall₂ (SessionPlan.Bounded simulation) (take count ⟨simulation, random⟩)
      (takeOversized count ⟨simulation, random⟩) := by
  induction count generalizing random with
  | zero => exact .nil
  | succ count inductionHypothesis =>
      exact .cons (bounded_next ⟨simulation, random⟩ someBytes) (inductionHypothesis _)

/-- Two hundred plans of the restless settings, whose rows of up to 64 bytes fit under their
ceiling. -/
theorem plans_bounded_chaos :
    1 ≤ (Simulation.chaos 42).maxRowBytes ∧
      (Simulation.chaos 42).maxRowBytes.toNat ≤ (Simulation.chaos 42).session.ceiling ∧
      List.Forall₂ (SessionPlan.Bounded (.chaos 42)) (take 200 (.ofSimulation (.chaos 42)))
        (takeOversized 200 (.ofSimulation (.chaos 42))) :=
  ⟨by decide, by decide +kernel,
    plans_bounded (.chaos 42) (.seeded (Simulation.chaos 42).seed) 200 (by decide)⟩

end Workload

end RowStream
