import RowStream.Fault.Point

/-!
Contract: how likely each fault is.

Owns:
- `clampProbability`, the nearest number of the unit interval;
- `FaultTable`, a switch, a global multiplier and a probability for each identifier;
- the presets: default, disabled and fivefold.

Identifiers are free text. One without an entry never strikes.

Main statement: `FaultTable.clampProbability_probability`, a probability in force is in the
unit interval already.
-/

namespace RowStream

/-- The nearest number of the unit interval. What is not a number stays so. -/
def clampProbability (probability : Float) : Float :=
  if probability < 0.0 then 0.0
  else if 1.0 < probability then 1.0
  else probability

@[simp] theorem clampProbability_clampProbability (probability : Float) :
    clampProbability (clampProbability probability) = clampProbability probability := by
  have zero : clampProbability 0.0 = 0.0 := (if_neg (by decide)).trans (if_neg (by decide))
  have one : clampProbability 1.0 = 1.0 := (if_neg (by decide)).trans (if_neg (by decide))
  by_cases below : probability < 0.0
  · rw [show clampProbability probability = 0.0 from if_pos below, zero]
  · by_cases above : 1.0 < probability
    · rw [show clampProbability probability = 1.0 from (if_neg below).trans (if_pos above), one]
    · -- What is not a number is neither below nor above, and stays.
      have same : clampProbability probability = probability :=
        (if_neg below).trans (if_neg above)
      rw [same, same]

/-- A later entry for the same identifier stands before an earlier one and hides it. -/
structure FaultTable where
  enabled : Bool
  multiplier : Float
  entries : List (String × Float)

namespace FaultTable

/-- Every fault point at its default probability. -/
def standard : FaultTable where
  enabled := true
  multiplier := 1.0
  entries := FaultPoint.all.map fun point => (point.id, point.defaultProbability)

/-- No fault ever strikes. -/
def disabled : FaultTable where
  enabled := false
  multiplier := 0.0
  entries := []

/-- The default probabilities, five times as likely. -/
def chaos : FaultTable :=
  { standard with multiplier := 5.0 }

def withFault (identifier : String) (probability : Float) (table : FaultTable) : FaultTable :=
  { table with entries := (identifier, probability) :: table.entries }

/-- The probability in force for an identifier: its entry times the multiplier, brought
into the unit interval, and zero while the table is switched off. -/
def probability (table : FaultTable) (identifier : String) : Float :=
  if table.enabled then
    clampProbability ((table.entries.lookup identifier).getD 0.0 * table.multiplier)
  else
    0.0

@[simp] theorem probability_of_disabled {table : FaultTable} (off : table.enabled = false)
    (identifier : String) : table.probability identifier = 0.0 := by
  simp [probability, off]

/-- Clamping a probability that is in force changes nothing. -/
@[simp] theorem clampProbability_probability (table : FaultTable) (identifier : String) :
    clampProbability (table.probability identifier) = table.probability identifier := by
  unfold probability
  split
  · exact clampProbability_clampProbability _
  · exact (if_neg (by decide)).trans (if_neg (by decide))

end FaultTable

instance : Inhabited FaultTable := ⟨FaultTable.standard⟩

end RowStream
