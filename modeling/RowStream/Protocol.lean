import RowStream.Session.Error

/-!
Contract: the protocol of a session as a finite transition system.

Owns:
- `Protocol`, the bounds within which a producer acts;
- `Arithmetic`, what becomes of a sum of machine words that leaves its word;
- the abstract states and actions, what an action does (`Protocol.step`), and the actions
  worth exploring in a state (`Protocol.listing`);
- the six properties that are looked at in every state.

Rows are known by their sizes only. An action that sends an append or a finalization says
what the service makes of it.

Sizes and counts are words of 64 bits, and the number of rows offered is one of 32. A row is
added up before it is compared with the ceiling, so that it matters what becomes of a sum that
leaves its word. Both kinds of build are here: one that checks its sums and stops, and one that
does not and goes on with what is left of the sum. `Protocol.step?` and `Protocol.actions`, with
which states are explored, are those of the build that goes on.
-/

namespace RowStream

/-- The bounds within which a producer acts. -/
structure Protocol where
  ceiling : UInt64
  /-- Sizes of the rows that may be offered. -/
  rowSizes : List UInt64
  /-- Number of rows offered on one path. -/
  maxRowAttempts : UInt32
deriving DecidableEq, Repr

namespace Protocol

/-- A small system with rows that fit, rows that overflow, and rows that are too large. -/
def small : Protocol := ⟨4, [1, 3, 5], 4⟩

/-- What becomes of a sum that leaves its word. -/
inductive Arithmetic where
  /-- It wraps around. -/
  | wrapping
  /-- It stops the program. -/
  | checked
deriving DecidableEq, Repr

/-- Why no state follows on an action. -/
inductive Halt where
  /-- The session refuses the action in this state. -/
  | refused
  /-- A sum left its word in a build that checks for that. -/
  | overflow
deriving DecidableEq, Repr

namespace Arithmetic

/-- A sum as a word, unless the exact one is past the last word and this is checked. -/
def settle {α : Type} (arithmetic : Arithmetic) (exact limit : Nat) (sum : α) :
    Except Halt α :=
  if arithmetic = .checked ∧ limit ≤ exact then .error .overflow else .ok sum

def add (arithmetic : Arithmetic) (left right : UInt64) : Except Halt UInt64 :=
  arithmetic.settle (left.toNat + right.toNat) UInt64.size (left + right)

def increment (arithmetic : Arithmetic) (count : UInt32) : Except Halt UInt32 :=
  arithmetic.settle (count.toNat + 1) UInt32.size (count + 1)

end Arithmetic

/-- What the service makes of an append. -/
inductive Ack where
  | acknowledged
  | serverError
  /-- Stored, and acknowledged at another offset. -/
  | offsetSkew
  /-- Stored, and the response lost. -/
  | responseDropped
deriving DecidableEq, Repr

def Ack.all : List Ack := [.acknowledged, .serverError, .offsetSkew, .responseDropped]

def Ack.name : Ack → String
  | .acknowledged => "Acknowledged"
  | .serverError => "ServerError"
  | .offsetSkew => "OffsetSkew"
  | .responseDropped => "ResponseDropped"

theorem Ack.mem_all (ack : Ack) : ack ∈ all := by
  cases ack <;> decide

structure State where
  phase : Phase := .open
  /-- Sizes of the rows in the buffer. -/
  pending : List UInt64 := []
  pendingBytes : UInt64 := 0
  committed : UInt64 := 0
  accepted : UInt64 := 0
  attempts : UInt32 := 0
  /-- Rows that the service stores. -/
  serverRows : UInt64 := 0
  /-- Rows that the service reported when it finalized the stream. -/
  serverFinalized : Option UInt64 := none
  /-- Rows that a successful commit answered. -/
  returned : Option UInt64 := none
deriving DecidableEq, Hashable, Repr

inductive Action where
  | add (size : UInt64) (ack : Ack)
  | commit (ack : Ack) (finalizeOk : Bool)
  | abort
deriving DecidableEq, Repr

namespace State

/-- Whether the service stands where the session believes it to stand. -/
def synchronized (state : State) : Bool :=
  state.committed == state.serverRows

def fail (state : State) : State := { state with phase := .failed }

/-- Total size of the rows in the buffer. -/
def bufferedBytes (state : State) : UInt64 :=
  state.pending.foldl (fun total size => total + size) 0

def pendingRows (state : State) : UInt64 := UInt64.ofNat state.pending.length

/-- What the service has after an append: it takes only one that is sent to where the stream
ends. -/
def store (arithmetic : Arithmetic) (state : State) : Except Halt State := do
  if state.synchronized then
    let serverRows ← arithmetic.add state.serverRows state.pendingRows
    return { state with serverRows := serverRows }
  else return state

/-- Sends the buffer. The result tells whether the session goes on. -/
def flush (arithmetic : Arithmetic) (ack : Ack) (state : State) : Except Halt (Bool × State) :=
  match ack with
  | .acknowledged => do
      if state.synchronized then
        let stored ← state.store arithmetic
        let committed ← arithmetic.add state.committed state.pendingRows
        return (true, { stored with committed := committed, pending := [], pendingBytes := 0 })
      else return (false, state.fail)
  | .serverError => return (false, state.fail)
  | .offsetSkew => return (false, (← state.store arithmetic).fail)
  | .responseDropped => return (false, (← state.store arithmetic).fail)

def buffer (arithmetic : Arithmetic) (size : UInt64) (state : State) : Except Halt State := do
  let pendingBytes ← arithmetic.add state.pendingBytes size
  let accepted ← arithmetic.add state.accepted 1
  return { state with
    pending := state.pending ++ [size]
    pendingBytes := pendingBytes
    accepted := accepted }

/-- Finalizes the stream, or fails to. -/
def finalize (finalizeOk : Bool) (state : State) : State :=
  if !finalizeOk then state.fail
  else
    let finalized := { state with serverFinalized := some state.serverRows }
    if state.serverRows = state.committed then
      { finalized with phase := .committed, returned := some state.serverRows }
    else finalized.fail

end State

def initial : State := {}

/-- What an action leads to. -/
def step (protocol : Protocol) (arithmetic : Arithmetic) (state : State) :
    Action → Except Halt State
  | .add size ack =>
      if state.phase ≠ .open then throw .refused
      else do
        let attempts ← arithmetic.increment state.attempts
        let offered := { state with attempts := attempts }
        let total ← arithmetic.add state.pendingBytes size
        if total ≤ protocol.ceiling then offered.buffer arithmetic size
        else if protocol.ceiling < size then return offered
        else
          match ← offered.flush arithmetic ack with
          | (false, failed) => return failed
          | (true, flushed) => flushed.buffer arithmetic size
  | .commit ack finalizeOk =>
      if state.phase ≠ .open then throw .refused
      else if state.pending.isEmpty then return state.finalize finalizeOk
      else do
        match ← state.flush arithmetic ack with
        | (false, failed) => return failed
        | (true, flushed) => return flushed.finalize finalizeOk
  | .abort =>
      if state.phase = .committed ∨ state.phase = .aborted then throw .refused
      else return { state with pending := [], pendingBytes := 0, phase := .aborted }

/-- What an action leads to; `none` if the session refuses it in this state. -/
def step? (protocol : Protocol) (state : State) (action : Action) : Option State :=
  (protocol.step .wrapping state action).toOption

/-- Whether offering a row of this size sends the buffer first. -/
def forcesFlush (protocol : Protocol) (arithmetic : Arithmetic) (state : State)
    (size : UInt64) : Except Halt Bool := do
  if size ≤ protocol.ceiling then
    return decide (protocol.ceiling < (← arithmetic.add state.pendingBytes size))
  else return false

/-- The offers of a row of one size. What becomes of an append is left open only if the
row causes one. -/
def offers (protocol : Protocol) (arithmetic : Arithmetic) (state : State) (size : UInt64) :
    Except Halt (List Action) := do
  if ← protocol.forcesFlush arithmetic state size then return Ack.all.map (Action.add size)
  else return [.add size .acknowledged]

/-- The offers of rows, as long as one more may be offered. -/
def rowActions (protocol : Protocol) (arithmetic : Arithmetic) (state : State) :
    Except Halt (List Action) := do
  if state.attempts < protocol.maxRowAttempts then
    return (← protocol.rowSizes.mapM (protocol.offers arithmetic state)).flatten
  else return []

/-- The actions worth exploring in a state. -/
def listing (protocol : Protocol) (arithmetic : Arithmetic) (state : State) :
    Except Halt (List Action) :=
  match state.phase with
  | .committed => return []
  | .aborted => return []
  | .failed => return [.abort]
  | .open => do
      let rows ← protocol.rowActions arithmetic state
      let commits := Ack.all.flatMap fun ack => [.commit ack true, .commit ack false]
      return rows ++ commits ++ [.abort]

/-- The actions that are explored. -/
def actions (protocol : Protocol) (state : State) : List Action :=
  (protocol.listing .wrapping state).toOption.getD []

/-- The buffer never exceeds the ceiling. -/
def BufferBounded (protocol : Protocol) (state : State) : Prop :=
  state.pendingBytes ≤ protocol.ceiling

/-- The running total is that of the buffer, and rows are committed or buffered unless the
session was aborted. -/
def PendingConsistent (state : State) : Prop :=
  state.bufferedBytes = state.pendingBytes ∧
    (state.phase = .aborted ∨ state.committed + state.pendingRows = state.accepted)

/-- The session never counts rows that the service does not have. -/
def AcknowledgedStored (state : State) : Prop :=
  state.committed ≤ state.serverRows

/-- A commit answers exactly the accepted rows, and the service has them. -/
def CommittedComplete (state : State) : Prop :=
  state.phase = .committed →
    state.returned = some state.accepted ∧ state.serverFinalized = some state.accepted ∧
      state.serverRows = state.accepted

/-- No stream is finalized outside of a successful commit. -/
def FinalizedCommitted (state : State) : Prop :=
  state.serverFinalized = none ∨ state.phase = .committed

/-- Three or more rows were committed. -/
def ManyCommitted (state : State) : Prop :=
  state.phase = .committed ∧ 3 ≤ state.accepted

instance (protocol : Protocol) (state : State) : Decidable (BufferBounded protocol state) := by
  unfold BufferBounded
  infer_instance

instance (state : State) : Decidable (PendingConsistent state) := by
  unfold PendingConsistent
  infer_instance

instance (state : State) : Decidable (AcknowledgedStored state) := by
  unfold AcknowledgedStored
  infer_instance

instance (state : State) : Decidable (CommittedComplete state) := by
  unfold CommittedComplete
  infer_instance

instance (state : State) : Decidable (FinalizedCommitted state) := by
  unfold FinalizedCommitted
  infer_instance

instance (state : State) : Decidable (ManyCommitted state) := by
  unfold ManyCommitted
  infer_instance

/-- The properties by name: five that hold always, and one that holds sometimes. -/
def properties (protocol : Protocol) (state : State) : List (String × Bool) :=
  [("buffer_bounded", decide (BufferBounded protocol state)),
   ("pending_consistent", decide (PendingConsistent state)),
   ("acknowledged_prefix", decide (AcknowledgedStored state)),
   ("committed_matches_server", decide (CommittedComplete state)),
   ("finalize_only_on_commit", decide (FinalizedCommitted state)),
   ("multi_flush_commit", decide (ManyCommitted state))]

end Protocol

end RowStream
