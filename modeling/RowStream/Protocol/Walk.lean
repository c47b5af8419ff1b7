import RowStream.Protocol
import Std.Data.HashSet

/-!
Contract: walking through all states of the protocol, breadth first.

Owns:
- `Protocol.successors`, what the offered actions of a state lead to;
- `Protocol.levels`, the states by their distance from the initial one;
- the numbers drawn from such a walk.

Every action that is offered uses up one of the rows still to be offered or brings the
session nearer to its end, so that no path is longer than the number of rows and two.
-/

namespace RowStream.Protocol

/-- What the offered actions of a state lead to, once for each action. -/
def successors (protocol : Protocol) (state : State) : List State :=
  (protocol.actions state).filterMap (protocol.step? state)

/-- Of the given states those not seen before, each once, in order. -/
def discover (seen : Std.HashSet State) : List State → List State × Std.HashSet State
  | [] => ([], seen)
  | state :: rest =>
      if seen.contains state then discover seen rest
      else
        let (found, seen) := discover (seen.insert state) rest
        (state :: found, seen)

/-- The levels from a given one on, as long as there are new states. -/
def levelsFrom (protocol : Protocol) : (fuel : Nat) → (level : List State) →
    (seen : Std.HashSet State) → List (List State)
  | 0, _, _ => []
  | fuel + 1, level, seen =>
      if level.isEmpty then []
      else
        let (next, seen) := discover seen (level.flatMap protocol.successors)
        level :: levelsFrom protocol fuel next seen

/-- The states by their distance from the initial one. -/
def levels (protocol : Protocol) : List (List State) :=
  let (first, seen) := discover {} [initial]
  protocol.levelsFrom (protocol.maxRowAttempts.toNat + 4) first seen

/-- Every state that some path of offered actions leads to. -/
def reachable (protocol : Protocol) : List State := protocol.levels.flatten

/-- Number of transitions out of the given states. -/
def transitionCount (protocol : Protocol) (states : List State) : Nat :=
  (states.flatMap protocol.successors).length

/-- Number of states in a phase. -/
def phaseCount (phase : Phase) (states : List State) : Nat :=
  states.countP fun state => state.phase == phase

/-- Number of states that satisfy each property. -/
def propertyCounts (protocol : Protocol) (states : List State) : List (String × Nat) :=
  (protocol.properties initial).map fun entry =>
    (entry.1, states.countP fun state => (protocol.properties state).lookup entry.1 == some true)

end RowStream.Protocol
