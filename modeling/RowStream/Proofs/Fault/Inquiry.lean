import Mathlib.Data.List.Forall2
import RowStream.Fault.Switch

/-!
Contract: the two ways of asking whether a fault strikes can stand for each other.

Owns:
- `Inquiry`, a question put by the table in force or with a probability given on the spot, and
  `FaultSwitch.answers`, any number of questions one after the other;
- `Inquiry.Rephrases`, the same question with the probability in force spelled out or left to
  the table.

Main statement: `FaultSwitch.forms_agree`. Equal answers alone would not do: a question that
drew once more would move every fault after it.
-/

namespace RowStream

inductive Inquiry where
  /-- By the table in force. -/
  | byTable (identifier : String)
  /-- By a probability given on the spot, whatever the table says of the fault. -/
  | byProbability (identifier : String) (probability : Float)

/-- The same question in the same form, or with the probability in force in the other one. -/
inductive Inquiry.Rephrases (table : FaultTable) : Inquiry → Inquiry → Prop where
  | same (inquiry : Inquiry) : Rephrases table inquiry inquiry
  | spelledOut (identifier : String) :
      Rephrases table (.byTable identifier)
        (.byProbability identifier (table.probability identifier))
  | lookedUp (identifier : String) :
      Rephrases table (.byProbability identifier (table.probability identifier))
        (.byTable identifier)

namespace FaultSwitch

def answer (switch : FaultSwitch) (random : Random) : Inquiry → Bool × FaultSwitch × Random
  | .byTable identifier => switch.strikes identifier random
  | .byProbability identifier probability => switch.strikesWith identifier probability random

def answers : List Inquiry → FaultSwitch → Random → List Bool × FaultSwitch × Random
  | [], switch, random => ([], switch, random)
  | inquiry :: rest, switch, random =>
      let (struck, asked, drawn) := switch.answer random inquiry
      let (later, switch, random) := answers rest asked drawn
      (struck :: later, switch, random)

/-- Asking changes no setting. -/
theorem table_answer (switch : FaultSwitch) (random : Random) (inquiry : Inquiry) :
    (switch.answer random inquiry).2.1.table = switch.table := by
  cases inquiry with
  | byTable identifier =>
      rw [answer, ← strikesWith_probability]
      exact table_strikesWith identifier _ switch random
  | byProbability identifier probability =>
      exact table_strikesWith identifier probability switch random

/-- Two ways to put a question get one answer, and leave the same counts behind. -/
theorem answer_of_rephrased {switch : FaultSwitch} {inquiry other : Inquiry}
    (rephrased : Inquiry.Rephrases switch.table inquiry other) (random : Random) :
    switch.answer random other = switch.answer random inquiry := by
  cases rephrased with
  | same inquiry => rfl
  | spelledOut identifier => exact switch.strikesWith_probability identifier random
  | lookedUp identifier => exact (switch.strikesWith_probability identifier random).symm

/-- The induction is on the questions. What rephrases what hangs on the table alone, which is
the same at each of them. -/
theorem answers_of_rephrased {table : FaultTable} {inquiries others : List Inquiry}
    (rephrased : List.Forall₂ (Inquiry.Rephrases table) inquiries others) {switch : FaultSwitch}
    (inForce : switch.table = table) (random : Random) :
    answers others switch random = answers inquiries switch random := by
  induction rephrased generalizing switch random with
  | nil => rfl
  | @cons inquiry other rest otherRest first later inductionHypothesis =>
      rw [← inForce] at first
      have kept := (switch.table_answer random inquiry).trans inForce
      simp only [answers, answer_of_rephrased first random, inductionHypothesis kept]

/-- Whatever the table, the tally and the generator: a question put by the table, and the same
question with the probability in force, have the same answer, leave the same tally and draw the
same words. In any sequence of questions each can therefore be put in either form, and no answer,
no count and no later draw is another. -/
theorem forms_agree (switch : FaultSwitch) :
    (∀ identifier random,
      switch.strikesWith identifier (switch.table.probability identifier) random =
        switch.strikes identifier random) ∧
      ∀ inquiries others random,
        List.Forall₂ (Inquiry.Rephrases switch.table) inquiries others →
          answers others switch random = answers inquiries switch random :=
  ⟨switch.strikesWith_probability, fun _ _ random rephrased =>
    answers_of_rephrased rephrased rfl random⟩

/-- Under the multiplier two 0.7 is brought down to one and -0.25 never strikes. What is not a
number draws and does not strike; a fault without an entry draws nothing. -/
theorem forms_agree_on_clamped_and_unknown :
    ∃ (switch : FaultSwitch) (inquiries others : List Inquiry) (random : Random),
      switch = { table := ⟨true, 2.0, [("often", 0.7), ("never", -0.25), ("odd", 0.0 / 0.0)]⟩ } ∧
        inquiries = [.byTable "often", .byTable "never",
          .byProbability "odd" (switch.table.probability "odd"), .byTable "unknown",
          .byProbability "often" 0.5] ∧
        others = [.byProbability "often" (switch.table.probability "often"),
          .byProbability "never" (switch.table.probability "never"), .byTable "odd",
          .byProbability "unknown" (switch.table.probability "unknown"),
          .byProbability "often" 0.5] ∧
        random = { word := fun _ => 999999 } ∧
        List.Forall₂ (Inquiry.Rephrases switch.table) inquiries others ∧
        (answers inquiries switch random).1 = [true, false, false, false, false] ∧
        (answers inquiries switch random).2.2.drawn = 3 ∧
        answers others switch random = answers inquiries switch random := by
  let switch : FaultSwitch :=
    { table := ⟨true, 2.0, [("often", 0.7), ("never", -0.25), ("odd", 0.0 / 0.0)]⟩ }
  have rephrased : List.Forall₂ (Inquiry.Rephrases switch.table)
      [.byTable "often", .byTable "never",
        .byProbability "odd" (switch.table.probability "odd"), .byTable "unknown",
        .byProbability "often" 0.5]
      [.byProbability "often" (switch.table.probability "often"),
        .byProbability "never" (switch.table.probability "never"), .byTable "odd",
        .byProbability "unknown" (switch.table.probability "unknown"),
        .byProbability "often" 0.5] :=
    .cons (.spelledOut _) (.cons (.spelledOut _) (.cons (.lookedUp _)
      (.cons (.spelledOut _) (.cons (.same _) .nil))))
  refine ⟨switch, _, _, _, rfl, rfl, rfl, rfl, rephrased, ?_, ?_,
    (forms_agree switch).2 _ _ _ rephrased⟩
  · decide +kernel
  · decide +kernel

end FaultSwitch

end RowStream
