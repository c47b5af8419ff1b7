import RowStream.Association

/-!
Contract: how often each fault was considered and how often it struck.

Owns:
- `Counts`, a number for each text, zero where none was ever recorded;
- `FaultTally`, the checks and the triggers, with its printed summary.

Main statement: `Counts.count_bump`, recording a text raises its count by one and no
other count.
-/

namespace RowStream

/-- A number for each text; texts appear in the order in which they were first recorded. -/
structure Counts where
  entries : List (String × Nat) := []
deriving DecidableEq, Repr

namespace Counts

def count (counts : Counts) (text : String) : Nat :=
  (counts.entries.lookup text).getD 0

/-- Every text recorded at least once. -/
def texts (counts : Counts) : List String :=
  counts.entries.map Prod.fst

/-- Records `text` once more. -/
def bump (text : String) (counts : Counts) : Counts :=
  ⟨Association.set text (counts.count text + 1) counts.entries⟩

theorem count_bump (counts : Counts) (text other : String) :
    (counts.bump text).count other = counts.count other + if other = text then 1 else 0 := by
  unfold bump count
  rw [Association.lookup_set]
  by_cases same : other = text
  · rw [if_pos same, if_pos same, same]
    rfl
  · rw [if_neg same, if_neg same]
    rfl

@[simp] theorem count_empty (text : String) : ({} : Counts).count text = 0 := rfl

end Counts

/-- How often each fault was considered, and how often it struck. -/
structure FaultTally where
  checks : Counts := {}
  triggers : Counts := {}
deriving DecidableEq, Repr

namespace FaultTally

def recordCheck (identifier : String) (tally : FaultTally) : FaultTally :=
  { tally with checks := tally.checks.bump identifier }

def recordTrigger (identifier : String) (tally : FaultTally) : FaultTally :=
  { tally with triggers := tally.triggers.bump identifier }

def triggered (tally : FaultTally) (identifier : String) : Nat :=
  tally.triggers.count identifier

/-- One line for each fault ever considered, in the order of their identifiers. -/
def summary (tally : FaultTally) : String :=
  let identifiers := tally.checks.texts.mergeSort fun left right => decide (left ≤ right)
  let lines := identifiers.map fun identifier =>
    s!"  {identifier}: {tally.triggered identifier}/{tally.checks.count identifier}"
  "\n".intercalate ("BUGGIFY Statistics:" :: lines)

end FaultTally

end RowStream
