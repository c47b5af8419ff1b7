import RowStream.Protocol

/-!
Contract: the protocol on machine words, in a build that checks its sums and in one that lets
them wrap around.

Owns:
- `Protocol.State.enqueue` and `Protocol.State.sent`, what buffering and flushing come to as
  long as nothing stops them;
- `Protocol.State.CountsFit`, counts that have room for what one call adds to them;
- `Protocol.StopsOr`, a computation that is another one unless it stops at a sum.

Main statements: `Protocol.step_add`, `Protocol.step_commit` and `Protocol.listing_open`, the
protocol in an open state wherever a build that checks its sums has room for them; and
`Protocol.step_stopsOr` and `Protocol.listing_stopsOr`, by which such a build does what the other
one does or stops, with room or without.
-/

namespace RowStream.Protocol

variable {protocol : Protocol} {state next : State} {action : Action} {arithmetic : Arithmetic}
  {size : UInt64} {ack : Ack} {finalizeOk : Bool}

/-! ### Sums -/

namespace Arithmetic

/-- Where a sum is not checked it need not fit. -/
theorem settle_of_lt {α : Type} {exact limit : Nat} (sum : α)
    (fits : arithmetic = .checked → exact < limit) :
    arithmetic.settle exact limit sum = .ok sum := by
  rw [settle, if_neg]
  rintro ⟨checks, past⟩
  exact Nat.not_le.mpr (fits checks) past

theorem add_of_lt {left right : UInt64}
    (fits : arithmetic = .checked → left.toNat + right.toNat < UInt64.size) :
    arithmetic.add left right = .ok (left + right) :=
  settle_of_lt _ fits

theorem increment_of_lt {count : UInt32}
    (fits : arithmetic = .checked → count.toNat + 1 < UInt32.size) :
    arithmetic.increment count = .ok (count + 1) :=
  settle_of_lt _ fits

end Arithmetic

/-! ### Steps that nothing stops -/

namespace State

def offer (state : State) : State := { state with attempts := state.attempts + 1 }

def enqueue (size : UInt64) (state : State) : State :=
  { state with
    pending := state.pending ++ [size]
    pendingBytes := state.pendingBytes + size
    accepted := state.accepted + 1 }

def acknowledge (state : State) : State :=
  { state with
    serverRows := state.serverRows + state.pendingRows
    committed := state.committed + state.pendingRows
    pending := []
    pendingBytes := 0 }

/-- The state in which the service has the buffer and the session does not know it, if the
buffer was sent to where the stream ends. -/
def overtake (state : State) : State :=
  if state.synchronized then { state with serverRows := state.serverRows + state.pendingRows }
  else state

def sent (state : State) : Ack → Bool × State
  | .acknowledged =>
      if state.synchronized then (true, state.acknowledge) else (false, state.fail)
  | .serverError => (false, state.fail)
  | .offsetSkew => (false, state.overtake.fail)
  | .responseDropped => (false, state.overtake.fail)

/-- The counts have room for one more row, and for the rows of the buffer. -/
structure CountsFit (state : State) : Prop where
  accepted : state.accepted.toNat + 1 < UInt64.size
  serverRows : state.serverRows.toNat + state.pending.length < UInt64.size
  committed : state.committed.toNat + state.pending.length < UInt64.size

theorem pendingRows_toNat_le (state : State) :
    state.pendingRows.toNat ≤ state.pending.length := by
  rw [pendingRows, UInt64.toNat_ofNat']
  exact Nat.mod_le _ _

theorem buffer_eq (accepted : arithmetic = .checked → state.accepted.toNat + 1 < UInt64.size)
    (bytes : arithmetic = .checked → state.pendingBytes.toNat + size.toNat < UInt64.size) :
    state.buffer arithmetic size = .ok (state.enqueue size) := by
  rw [buffer, Arithmetic.add_of_lt bytes, Arithmetic.add_of_lt accepted]
  rfl

theorem store_eq (room : arithmetic = .checked → state.CountsFit) :
    state.store arithmetic = .ok state.overtake := by
  have fits : arithmetic = .checked →
      state.serverRows.toNat + state.pendingRows.toNat < UInt64.size := fun checks =>
    Nat.lt_of_le_of_lt (Nat.add_le_add_left state.pendingRows_toNat_le _) (room checks).serverRows
  rw [store, overtake, Arithmetic.add_of_lt fits]
  split
  · rfl
  · rfl

theorem flush_eq (room : arithmetic = .checked → state.CountsFit) (ack : Ack) :
    state.flush arithmetic ack = .ok (state.sent ack) := by
  have fits : arithmetic = .checked →
      state.committed.toNat + state.pendingRows.toNat < UInt64.size := fun checks =>
    Nat.lt_of_le_of_lt (Nat.add_le_add_left state.pendingRows_toNat_le _) (room checks).committed
  cases ack with
  | acknowledged =>
      rw [flush, sent, store_eq room, Arithmetic.add_of_lt fits, overtake]
      split
      · rfl
      · rfl
  | serverError => rfl
  | offsetSkew =>
      rw [flush, store_eq room]
      rfl
  | responseDropped =>
      rw [flush, store_eq room]
      rfl

/-- A buffer that is sent leaves the next row its room. -/
theorem sent_room {flushed : State} (sent : state.sent ack = (true, flushed)) :
    flushed.accepted = state.accepted ∧ flushed.pendingBytes = 0 := by
  cases ack with
  | acknowledged =>
      rw [State.sent] at sent
      split at sent
      · cases sent
        exact ⟨rfl, rfl⟩
      · cases sent
  | serverError => cases sent
  | offsetSkew => cases sent
  | responseDropped => cases sent

end State

/-- What an open session makes of a row. -/
theorem step_add (isOpen : state.phase = .open) (room : arithmetic = .checked → state.CountsFit)
    (counted : arithmetic = .checked → state.attempts.toNat + 1 < UInt32.size)
    (bytes : arithmetic = .checked → state.pendingBytes.toNat + size.toNat < UInt64.size)
    (ack : Ack) :
    protocol.step arithmetic state (.add size ack) =
      .ok (if state.pendingBytes + size ≤ protocol.ceiling then state.offer.enqueue size
        else if protocol.ceiling < size then state.offer
        else if (state.offer.sent ack).1 then (state.offer.sent ack).2.enqueue size
        else (state.offer.sent ack).2) := by
  have offered : arithmetic = .checked → state.offer.CountsFit := fun checks =>
    ⟨(room checks).accepted, (room checks).serverRows, (room checks).committed⟩
  have buffered := State.buffer_eq (fun checks => (offered checks).accepted) bytes
  have flushed := State.flush_eq offered ack
  rw [step, if_neg (not_not_intro isOpen), Arithmetic.increment_of_lt counted,
    Arithmetic.add_of_lt bytes]
  simp only [bind, Except.bind]
  rw [← State.offer, buffered, flushed]
  split
  · rfl
  · split
    · rfl
    · cases sent : state.offer.sent ack with
      | mk goesOn next =>
        cases goesOn with
        | false => rfl
        | true =>
            obtain ⟨accepted, emptied⟩ := State.sent_room sent
            have buffered : next.buffer arithmetic size = .ok (next.enqueue size) := by
              refine State.buffer_eq (fun checks => ?_) fun _ => ?_
              · rw [accepted]
                exact (room checks).accepted
              · rw [emptied, UInt64.toNat_zero, Nat.zero_add]
                exact size.toNat_lt
            exact buffered

/-- What an open session makes of a commit. -/
theorem step_commit (isOpen : state.phase = .open) (room : arithmetic = .checked → state.CountsFit)
    (ack : Ack) (finalizeOk : Bool) :
    protocol.step arithmetic state (.commit ack finalizeOk) =
      .ok (if state.pending.isEmpty then state.finalize finalizeOk
        else if (state.sent ack).1 then (state.sent ack).2.finalize finalizeOk
        else (state.sent ack).2) := by
  rw [step, if_neg (not_not_intro isOpen), State.flush_eq room]
  split
  · rfl
  · cases state.sent ack with
    | mk goesOn next => cases goesOn <;> rfl

theorem step_add_refused (past : state.phase ≠ .open) :
    protocol.step arithmetic state (.add size ack) = .error .refused := by
  rw [step, if_pos past]
  rfl

theorem step_commit_refused (past : state.phase ≠ .open) :
    protocol.step arithmetic state (.commit ack finalizeOk) = .error .refused := by
  rw [step, if_pos past]
  rfl

/-! ### Where sums wrap around -/

/-- A build that does not check its sums takes every row while the session is open. -/
theorem step?_add (isOpen : state.phase = .open) (size : UInt64) (ack : Ack) :
    protocol.step? state (.add size ack) =
      some (if state.pendingBytes + size ≤ protocol.ceiling then state.offer.enqueue size
        else if protocol.ceiling < size then state.offer
        else if (state.offer.sent ack).1 then (state.offer.sent ack).2.enqueue size
        else (state.offer.sent ack).2) := by
  rw [step?, step_add isOpen (by simp) (by simp) (by simp)]
  rfl

theorem step?_commit (isOpen : state.phase = .open) (ack : Ack) (finalizeOk : Bool) :
    protocol.step? state (.commit ack finalizeOk) =
      some (if state.pending.isEmpty then state.finalize finalizeOk
        else if (state.sent ack).1 then (state.sent ack).2.finalize finalizeOk
        else (state.sent ack).2) := by
  rw [step?, step_commit isOpen (by simp)]
  rfl

theorem step?_add_fitting (isOpen : state.phase = .open)
    (fits : state.pendingBytes + size ≤ protocol.ceiling) :
    protocol.step? state (.add size ack) = some (state.offer.enqueue size) := by
  rw [step?_add isOpen, if_pos fits]

theorem step?_add_tooLarge (isOpen : state.phase = .open)
    (overflows : protocol.ceiling < state.pendingBytes + size)
    (large : protocol.ceiling < size) :
    protocol.step? state (.add size ack) = some state.offer := by
  rw [step?_add isOpen, if_neg (UInt64.not_le.mpr overflows), if_pos large]

theorem step?_add_overflowing {goesOn : Bool} {flushed : State} (isOpen : state.phase = .open)
    (fits : size ≤ protocol.ceiling)
    (overflows : protocol.ceiling < state.pendingBytes + size)
    (sent : state.offer.sent ack = (goesOn, flushed)) :
    protocol.step? state (.add size ack) =
      some (if goesOn then flushed.enqueue size else flushed) := by
  rw [step?_add isOpen, if_neg (UInt64.not_le.mpr overflows), if_neg (UInt64.not_lt.mpr fits),
    sent]

theorem step?_commit_unbuffered (isOpen : state.phase = .open) (empty : state.pending = []) :
    protocol.step? state (.commit ack finalizeOk) = some (state.finalize finalizeOk) := by
  rw [step?_commit isOpen, if_pos (List.isEmpty_iff.mpr empty)]

theorem step?_commit_buffered {goesOn : Bool} {flushed : State} (isOpen : state.phase = .open)
    (waiting : state.pending ≠ []) (sent : state.sent ack = (goesOn, flushed)) :
    protocol.step? state (.commit ack finalizeOk) =
      some (if goesOn then flushed.finalize finalizeOk else flushed) := by
  rw [step?_commit isOpen, if_neg (mt List.isEmpty_iff.mp waiting), sent]

/-- An abort adds nothing up, and is the same in every build. -/
theorem step?_abort :
    protocol.step? state .abort =
      if state.phase = .committed ∨ state.phase = .aborted then none
      else some { state with pending := [], pendingBytes := 0, phase := .aborted } := by
  rw [step?, step]
  split
  · rfl
  · rfl

/-- The session takes a row in the open phase only. -/
theorem step?_add_eq_none : protocol.step? state (.add size ack) = none ↔ state.phase ≠ .open := by
  constructor
  · intro refused isOpen
    rw [step?_add isOpen] at refused
    cases refused
  · intro past
    rw [step?, step_add_refused past]
    rfl

/-- The session commits in the open phase only. -/
theorem step?_commit_eq_none :
    protocol.step? state (.commit ack finalizeOk) = none ↔ state.phase ≠ .open := by
  constructor
  · intro refused isOpen
    rw [step?_commit isOpen] at refused
    cases refused
  · intro past
    rw [step?, step_commit_refused past]
    rfl

/-- A session that takes a call is open. -/
theorem phase_open_of_step? (stepped : protocol.step? state action = some next)
    (calls : action ≠ .abort) : state.phase = .open := by
  apply Classical.byContradiction
  intro past
  cases action with
  | add size ack =>
      rw [step?_add_eq_none.mpr past] at stepped
      cases stepped
  | commit ack finalizeOk =>
      rw [step?_commit_eq_none.mpr past] at stepped
      cases stepped
  | abort => exact calls rfl

/-! ### The list of actions -/

/-- Whether a row sends the buffer first, as long as nothing stops the sum. -/
def forces (protocol : Protocol) (state : State) (size : UInt64) : Bool :=
  decide (size ≤ protocol.ceiling) && decide (protocol.ceiling < state.pendingBytes + size)

def offered (protocol : Protocol) (state : State) (size : UInt64) : List Action :=
  if protocol.forces state size then Ack.all.map (Action.add size) else [.add size .acknowledged]

theorem offers_eq
    (bytes : arithmetic = .checked → state.pendingBytes.toNat + size.toNat < UInt64.size) :
    protocol.offers arithmetic state size = .ok (protocol.offered state size) := by
  rw [offers, forcesFlush, offered, forces, Arithmetic.add_of_lt bytes]
  by_cases small : size ≤ protocol.ceiling
  · by_cases overflows : protocol.ceiling < state.pendingBytes + size
    · simp [small, overflows, bind, Except.bind, pure, Except.pure]
    · simp [small, overflows, bind, Except.bind, pure, Except.pure]
  · simp [small, bind, Except.bind, pure, Except.pure]

theorem mapM_offers {sizes : List UInt64}
    (bytes : arithmetic = .checked →
      ∀ size ∈ sizes, state.pendingBytes.toNat + size.toNat < UInt64.size) :
    sizes.mapM (protocol.offers arithmetic state) = .ok (sizes.map (protocol.offered state)) := by
  induction sizes with
  | nil => rfl
  | cons size rest inductionHypothesis =>
      have others := inductionHypothesis fun checks later member =>
        bytes checks later (List.mem_cons_of_mem size member)
      rw [List.mapM_cons, offers_eq fun checks => bytes checks size List.mem_cons_self, others]
      rfl

def openActions (protocol : Protocol) (state : State) : List Action :=
  (if state.attempts < protocol.maxRowAttempts then
    protocol.rowSizes.flatMap (protocol.offered state)
  else []) ++ (Ack.all.flatMap fun ack => [.commit ack true, .commit ack false]) ++ [.abort]

theorem listing_open (isOpen : state.phase = .open)
    (bytes : arithmetic = .checked →
      ∀ size ∈ protocol.rowSizes, state.pendingBytes.toNat + size.toNat < UInt64.size) :
    protocol.listing arithmetic state = .ok (protocol.openActions state) := by
  rw [listing, openActions, rowActions, mapM_offers bytes]
  simp only [isOpen]
  split
  · rfl
  · rfl

theorem actions_open (isOpen : state.phase = .open) :
    protocol.actions state = protocol.openActions state := by
  rw [actions, listing_open isOpen (by simp)]
  rfl

/-! ### Sums that are checked -/

/-- One computation is another, unless it stops at a sum. -/
def StopsOr {α : Type} (one other : Except Halt α) : Prop :=
  one = .error .overflow ∨ one = other

namespace StopsOr

variable {α β : Type}

theorem refl (one : Except Halt α) : StopsOr one one := Or.inr rfl

theorem settle (arithmetic : Arithmetic) (exact limit : Nat) (sum : α) :
    StopsOr (arithmetic.settle exact limit sum) (Arithmetic.wrapping.settle exact limit sum) := by
  have wraps : Arithmetic.wrapping.settle exact limit sum = .ok sum :=
    Arithmetic.settle_of_lt sum (by simp)
  rw [wraps, Arithmetic.settle]
  split
  · exact Or.inl rfl
  · exact Or.inr rfl

theorem add (arithmetic : Arithmetic) (left right : UInt64) :
    StopsOr (arithmetic.add left right) (Arithmetic.wrapping.add left right) := settle _ _ _ _

theorem increment (arithmetic : Arithmetic) (count : UInt32) :
    StopsOr (arithmetic.increment count) (Arithmetic.wrapping.increment count) := settle _ _ _ _

/-- Computations in sequence stop where one of them does. -/
theorem bind {one other : Except Halt α} {next otherNext : α → Except Halt β}
    (first : StopsOr one other) (rest : ∀ value, StopsOr (next value) (otherNext value)) :
    StopsOr (one >>= next) (other >>= otherNext) := by
  rcases first with stopped | rfl
  · rw [stopped]
    exact Or.inl rfl
  · cases one with
    | error halt => exact refl _
    | ok value => exact rest value

theorem mapM {next otherNext : α → Except Halt β}
    (each : ∀ value, StopsOr (next value) (otherNext value)) (values : List α) :
    StopsOr (values.mapM next) (values.mapM otherNext) := by
  induction values with
  | nil => exact refl _
  | cons value rest inductionHypothesis =>
      rw [List.mapM_cons, List.mapM_cons]
      exact bind (each value) fun _ => bind inductionHypothesis fun _ => refl _

end StopsOr

namespace State

end State

end RowStream.Protocol
