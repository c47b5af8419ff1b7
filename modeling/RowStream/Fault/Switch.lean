import RowStream.Fault.Table
import RowStream.Fault.Tally
import RowStream.Random

/-!
Contract: deciding whether a fault strikes.

Owns:
- `FaultSwitch`, the table in force together with the tally of its decisions;
- the decision by the table (`strikes`) and by a probability given on the spot
  (`strikesWith`).

Both record the check, draw one word unless the answer is settled beforehand, and record
the trigger.

Main statements: `FaultSwitch.strikesWith_of_settled`, `FaultSwitch.tally_strikesWith` and
`FaultSwitch.strikesWith_probability`, given the probability in force the second decision is
the first.
-/

namespace RowStream

structure FaultSwitch where
  table : FaultTable := FaultTable.standard
  tally : FaultTally := {}

instance : Inhabited FaultSwitch := ⟨{}⟩

namespace FaultSwitch

/-- A multiple of one millionth below one. -/
def roll (random : Random) : Float × Random :=
  let (millionths, rest) := random.range 0 1000000
  (millionths.toFloat / 1000000.0, rest)

def resetTally (switch : FaultSwitch) : FaultSwitch :=
  { switch with tally := {} }

private def recordCheck (identifier : String) (switch : FaultSwitch) : FaultSwitch :=
  { switch with tally := switch.tally.recordCheck identifier }

/-- Rolls against `threshold` and records a strike. -/
private def rollAgainst (threshold : Float) (identifier : String) (switch : FaultSwitch)
    (random : Random) : Bool × FaultSwitch × Random :=
  let (rolled, rest) := roll random
  if rolled < threshold then
    (true, { switch with tally := switch.tally.recordTrigger identifier }, rest)
  else
    (false, switch, rest)

/-- Whether the fault strikes, by the table in force. -/
def strikes (identifier : String) (switch : FaultSwitch) (random : Random) :
    Bool × FaultSwitch × Random :=
  let checked := switch.recordCheck identifier
  let probability := switch.table.probability identifier
  if probability ≤ 0.0 then
    (false, checked, random)
  else
    checked.rollAgainst probability identifier random

/-- Whether the fault strikes, by a probability given on the spot. The table only
switches it off. -/
def strikesWith (identifier : String) (probability : Float) (switch : FaultSwitch)
    (random : Random) : Bool × FaultSwitch × Random :=
  let checked := switch.recordCheck identifier
  if !switch.table.enabled || decide (probability ≤ 0.0) then
    (false, checked, random)
  else
    checked.rollAgainst (clampProbability probability) identifier random

/-- Settled beforehand, the answer is no and nothing is drawn. The check is recorded all the
same. -/
theorem strikesWith_of_settled {switch : FaultSwitch} {probability : Float}
    (settled : switch.table.enabled = false ∨ probability ≤ 0.0) (identifier : String)
    (random : Random) :
    switch.strikesWith identifier probability random =
      (false, { switch with tally := switch.tally.recordCheck identifier }, random) := by
  have asked : (!switch.table.enabled || decide (probability ≤ 0.0)) = true := by
    rcases settled with off | never
    · simp [off]
    · simp [never]
  exact if_pos asked

/-- A strike is a check with a trigger. -/
theorem tally_strikesWith (identifier : String) (probability : Float) (switch : FaultSwitch)
    (random : Random) :
    let decided := switch.strikesWith identifier probability random
    let checked := switch.tally.recordCheck identifier
    decided.2.1.tally = if decided.1 then checked.recordTrigger identifier else checked := by
  simp only [strikesWith, rollAgainst]
  split
  · rfl
  · split <;> rfl

@[simp] theorem table_strikesWith (identifier : String) (probability : Float)
    (switch : FaultSwitch) (random : Random) :
    (switch.strikesWith identifier probability random).2.1.table = switch.table := by
  simp only [strikesWith, rollAgainst]
  split
  · rfl
  · split <;> rfl

/-- Given the probability in force, nothing is asked twice and nothing is drawn more: a table
switched off has the probability zero, and clamping a second time changes nothing. -/
theorem strikesWith_probability (switch : FaultSwitch) (identifier : String) (random : Random) :
    switch.strikesWith identifier (switch.table.probability identifier) random =
      switch.strikes identifier random := by
  cases enabled : switch.table.enabled with
  | false =>
      have settled : switch.table.probability identifier ≤ 0.0 := by
        rw [FaultTable.probability_of_disabled enabled]
        decide
      rw [strikesWith_of_settled (Or.inl enabled)]
      exact (if_pos settled).symm
  | true =>
      simp only [strikesWith, strikes, enabled, Bool.not_true, Bool.false_or, decide_eq_true_eq,
        FaultTable.clampProbability_probability]

end FaultSwitch

end RowStream
